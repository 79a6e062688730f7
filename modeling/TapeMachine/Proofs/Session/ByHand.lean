import TapeMachine.Proofs.Configuration.View
import TapeMachine.Proofs.Journal.Storing
import TapeMachine.Proofs.Machine.News
import TapeMachine.Proofs.Session.Menus
import TapeMachine.Proofs.Session.Stages

namespace TapeMachine

open DeskTask

def Entry.shown (entry : Entry) : Shown :=
  .text (Console.visible entry.message)

theorem mapM_message (entries : List Entry) :
    (entries.map Entry.record).mapM Record.message = .ok (entries.map Entry.message) := by
  induction entries with
  | nil => rfl
  | cons entry entries ih =>
    rw [List.map_cons, List.mapM_cons, Entry.message_eq, ih]
    rfl

namespace Session

variable {session : Session} {desk : Desk} {day : String}

/-- A new machine's log is taken over as it is, and of an old one's only the news. -/
theorem runAt_follow (h : session.journal.Storable desk.files) (machine : Machine) (known : Nat) :
    ∃ files, (session.follow machine known).runAt desk =
        (.ok { session with
          journal := session.journal.remember
            ((machine.log.extract known).toList.map Entry.record)
          machine := some machine }, { desk with files }) ∧
      desk.files.SameDirectories files := by
  obtain ⟨files, hstore, hsame⟩ :=
    h.store_runOn ((machine.log.extract known).toList.map Entry.record)
  refine ⟨files, ?_, hsame⟩
  have hwork : (onFiles (session.journal.store session.journal.current
      ((machine.log.extract known).toList.map Entry.record))).runAt desk =
      (.ok (), { desk with files }) := by rw [runAt_onFiles, hstore]
  exact runAt_bind_ok hwork

theorem shows_showLast {earlier : List Record} {entries : List Entry} {count : Nat}
    (h : session.journal.records.toList = earlier ++ entries.map Entry.record)
    (hc : entries.length = count) :
    (session.showLast count).Shows (entries.map Entry.shown) () := by
  subst hc
  have hlast : session.journal.records.toList.drop
      (session.journal.records.toList.length - entries.length) = entries.map Entry.record := by
    rw [h, List.length_append, List.length_map, Nat.add_sub_cancel, List.drop_left]
  have htexts : (entries.map Entry.message).map (fun text => .text (Console.visible text)) =
      entries.map Entry.shown := by
    rw [List.map_map]
    rfl
  simp only [showLast]
  rw [hlast, mapM_message, mapError_ok, ← htexts]
  have hshown := @shows_forM String (entries.map Entry.message) showPlain _
    fun text _ => shows_showPlain text
  exact (shows_attempt_ok (entries.map Entry.message)).bind hshown

/-- What a user does to a machine by hand. -/
inductive Act where
  | prepare
  | step
  deriving DecidableEq, Repr

/-- The choice at the menu. -/
def Act.line : Act → String
  | prepare => "2"
  | step => "3"

/-- What comes of an act: a source without rules makes no machine, else a new one is built; a step
is made by the machine that is there. -/
inductive Deed where
  | refused
  | built (machine : Machine)
  | stepped (machine : Machine)

/-- The machine after it. -/
def Deed.machine? : Deed → Option Machine
  | refused => none
  | built machine => some machine
  | stepped machine => some machine.step.2

/-- The entries that it adds to the log. -/
def Deed.added : Deed → List Entry
  | refused => []
  | built machine => machine.log.toList
  | stepped machine => machine.news

/-- The entries that the user is told. -/
def Deed.told : Deed → List Entry
  | refused => []
  | built machine => machine.log.toList
  | stepped machine => machine.news.getLast?.toList

def Deed.halts : Deed → Bool
  | stepped machine => machine.halts
  | _ => false

/-- A machine that is built begins the log anew. -/
def Deed.logAfter (records : List Record) (deed : Deed) : List Record :=
  match deed with
  | built _ => deed.added.map Entry.record
  | _ => records ++ deed.added.map Entry.record

def freshDeed (table : Table) : Deed :=
  match Machine.ofTable? table with
  | none => .refused
  | some machine => .built machine

def deedOf (table : Table) : Option Machine → Act → Deed
  | some machine, .step => .stepped machine
  | _, _ => freshDeed table

theorem deedOf_prepare (table : Table) (machine? : Option Machine) :
    deedOf table machine? .prepare = freshDeed table := by
  cases machine? <;> rfl

/-- What comes of one act after another. -/
def deeds (table : Table) : Option Machine → List Act → List Deed
  | _, [] => []
  | machine?, act :: acts =>
    deedOf table machine? act :: deeds table (deedOf table machine? act).machine? acts

/-- The session after a deed on a day. -/
def take (day : String) (session : Session) : Deed → Session
  | .refused =>
    { session with table := some (Program.ofText session.source).table, machine := none }
  | .built machine =>
    { session with
      journal := (session.journal.clear day).remember (machine.log.toList.map Entry.record)
      table := some (Program.ofText session.source).table
      machine := some machine }
  | .stepped machine =>
    { session with
      journal := session.journal.remember (machine.news.map Entry.record)
      machine := some machine.step.2 }

def skipped (session : Session) : List Shown :=
  (Program.ofText session.source).warnings.map fun warning =>
    .text (Console.visible ("Skipped " ++ warning.message))

/-- What is shown before the messages. -/
def before (session : Session) : Deed → List Shown
  | .refused => session.skipped ++ [.text (Console.visible ("Error: " ++ Machine.noRules))]
  | .built _ => session.skipped
  | .stepped _ => []

/-- What is shown after them. -/
def boards (session : Session) : Deed → List Shown
  | .stepped machine => (machine.step.2.board session.settings.tapeWindow).toOption.toList
  | _ => []

/-- All that is shown of a deed, up to the next question. -/
def page (session : Session) (deed : Deed) : List Shown :=
  session.before deed ++ deed.told.map Entry.shown ++ session.boards deed ++ session.menu

/-- A session at the menu that can show its machine and its menu, and store its log. -/
structure Ready (session : Session) (desk : Desk) : Prop where
  query : session.query = .choice
  window : 0 < session.settings.tapeWindow
  countable : session.settings.tapeWindow < Configuration.maxCount
  line : ∀ line ∈ session.sourceLine?, (Console.plain line).isOk
  storable : session.journal.Storable desk.files
  storableToday : (session.journal.rotate desk.day).Storable desk.files

theorem Ready.take {files : Files.Tree} (h : session.Ready desk)
    (hs : desk.files.SameDirectories files) (deed : Deed) (items : List Shown) :
    (session.take desk.day deed).Ready ({ desk with files }.showing items) := by
  obtain ⟨hquery, hwindow, hcount, hline, hstorable, htoday⟩ := h
  have hstorable' := hstorable.of_sameDirectories hs
  have htoday' := htoday.of_sameDirectories hs
  cases deed with
  | refused => exact ⟨hquery, hwindow, hcount, hline, hstorable', htoday'⟩
  | built machine => exact ⟨hquery, hwindow, hcount, hline, htoday', htoday'⟩
  | stepped machine => exact ⟨hquery, hwindow, hcount, hline, hstorable', htoday'⟩

theorem shows_showWarnings (session : Session) :
    (showWarnings (Program.ofText session.source)).Shows session.skipped () :=
  shows_forM fun _ _ => shows_showPlain _

/-- A task that comes to a deed, up to the menu. -/
def Does (task : DeskTask Session) (session : Session) (desk : Desk) (deed : Deed) : Prop :=
  ∃ files, task.runAt desk = (.ok (session.take desk.day deed), { desk with files }.showing
      (session.before deed ++ deed.told.map Entry.shown ++ session.boards deed)) ∧
    desk.files.SameDirectories files

theorem does_refused (h : Machine.ofTable? (Program.ofText session.source).table = none) :
    Does session.prepare session desk .refused := by
  refine ⟨desk.files, ?_, .refl _⟩
  have hpage : session.skipped ++ [.text (Console.visible ("Error: " ++ Machine.noRules))] =
      session.before .refused ++ Deed.refused.told.map Entry.shown ++ session.boards .refused := by
    simp [before, Deed.told, boards]
  rw [← hpage]
  simp only [prepare, h]
  rw [runAt_bind_ok (shows_showWarnings session desk), runAt_bind_ok (shows_showPlain _ _),
    runAt_pure, Desk.showing_showing]
  rfl

theorem does_built {machine : Machine} (h : session.Ready desk)
    (hm : Machine.ofTable? (Program.ofText session.source).table = some machine) :
    Does session.prepare session desk (.built machine) := by
  let cleared : Session :=
    { session with
      journal := session.journal.clear desk.day
      table := some (Program.ofText session.source).table }
  have hstorable : cleared.journal.Storable (desk.showing session.skipped).files :=
    h.storableToday
  obtain ⟨files, hfollow, hsame⟩ := runAt_follow hstorable machine 0
  have hlog : (machine.log.extract 0).toList = machine.log.toList := by simp
  rw [hlog] at hfollow
  have hlast := @shows_showLast (session.take desk.day (.built machine)) [] machine.log.toList
    (session.take desk.day (.built machine)).journal.records.size
    (by simp [take, Journal.remember, Journal.clear])
    (by simp [take, Journal.remember, Journal.clear])
  refine ⟨files, ?_, hsame⟩
  have hpage : session.skipped ++ machine.log.toList.map Entry.shown =
      session.before (.built machine) ++ (Deed.built machine).told.map Entry.shown ++
        session.boards (.built machine) := by
    simp [before, Deed.told, boards]
  rw [← hpage, ← Desk.showing_showing]
  simp only [prepare, hm]
  rw [runAt_bind_ok (shows_showWarnings session desk), runAt_bind_ok (runAt_get _)]
  exact (runAt_bind_ok hfollow).trans (runAt_bind_ok (hlast _))

theorem does_prepare (h : session.Ready desk) :
    Does session.prepare session desk (freshDeed (Program.ofText session.source).table) := by
  unfold freshDeed
  split
  next hm => exact does_refused hm
  next machine hm => exact does_built h hm

theorem does_step {machine : Machine} (h : session.Ready desk) (hm : session.machine = some machine) :
    Does session.step session desk (.stepped machine) := by
  obtain ⟨files, hfollow, hsame⟩ := runAt_follow h.storable machine.step.2 machine.log.size
  obtain ⟨board, hboard⟩ := machine.step.2.board_exists h.window h.countable
  have hlast : ((session.take desk.day (.stepped machine)).showLast 1).Shows
      ((Deed.stepped machine).told.map Entry.shown) () := by
    obtain ⟨earlier, last, hnews⟩ := machine.news_eq_concat
    have htold : (Deed.stepped machine).told = [last] := by
      rw [Deed.told, hnews, List.getLast?_concat, Option.toList_some]
    rw [htold]
    refine @shows_showLast _ (session.journal.records.toList ++ earlier.map Entry.record) _ _ ?_ rfl
    simp [take, Journal.remember, hnews]
  have hshown : (showBoard machine.step.2 session.settings.tapeWindow).Shows
      (session.boards (.stepped machine)) () := by
    rw [showBoard, hboard, boards, hboard]
    exact (shows_attempt_ok board).bind (shows_showAll _)
  refine ⟨files, ?_, hsame⟩
  rw [← Desk.showing_showing]
  simp only [step, hm]
  exact (runAt_bind_ok hfollow).trans ((runAt_bind_ok (hlast _)).trans (runAt_bind_ok (hshown _)))

theorem respond_line (h : session.query = .choice) (act : Act) :
    session.respond act.line =
      (match act with
        | .prepare => session.prepare
        | .step => session.step) >>= toMenu := by
  rw [respond, h]
  cases act <;> rfl

theorem Does.toMenu {task : DeskTask Session} {deed : Deed} (h : session.Ready desk)
    (hd : Does task session desk deed) :
    ∃ files, (task >>= Session.toMenu).runAt desk =
        (.ok (.asking (session.take desk.day deed)),
          { desk with files }.showing (session.page deed)) ∧
      desk.files.SameDirectories files := by
  obtain ⟨files, hrun, hsame⟩ := hd
  refine ⟨files, ?_, hsame⟩
  have hready := h.take hsame deed []
  have hmenu : (session.take desk.day deed).menu = session.menu := by cases deed <;> rfl
  rw [runAt_bind_ok hrun, shows_toMenu hready.line, hmenu, Desk.showing_showing, ← hready.query]
  rfl

theorem does_act (h : session.Ready desk) (act : Act) :
    ∃ files, (session.respond act.line).runAt desk =
        (.ok (.asking (session.take desk.day
            (deedOf (Program.ofText session.source).table session.machine act))),
          { desk with files }.showing
            (session.page (deedOf (Program.ofText session.source).table session.machine act))) ∧
      desk.files.SameDirectories files := by
  rw [respond_line h.query]
  refine Does.toMenu h ?_
  cases act with
  | prepare =>
    rw [deedOf_prepare]
    exact does_prepare h
  | step =>
    cases hm : session.machine with
    | some machine => exact does_step h hm
    | none =>
      rw [step, hm]
      exact does_prepare h

theorem take_machine (day : String) (session : Session) (deed : Deed) :
    (session.take day deed).machine = deed.machine? := by
  cases deed <;> rfl

theorem take_source (day : String) (session : Session) (deed : Deed) :
    (session.take day deed).source = session.source := by
  cases deed <;> rfl

theorem take_page (day : String) (session : Session) (deed : Deed) :
    (session.take day deed).page = session.page := by
  cases deed <;> rfl

theorem take_records (day : String) (session : Session) (deed : Deed) :
    (session.take day deed).journal.records.toList =
      deed.logAfter session.journal.records.toList := by
  cases deed <;> simp [take, Deed.logAfter, Deed.added, Journal.remember, Journal.clear]

theorem foldl_take_records (day : String) (session : Session) (deeds : List Deed) :
    (deeds.foldl (take day) session).journal.records.toList =
      deeds.foldl Deed.logAfter session.journal.records.toList := by
  induction deeds generalizing session with
  | nil => rfl
  | cons deed deeds ih => rw [List.foldl_cons, ih, take_records, List.foldl_cons]

theorem does_acts (h : session.Ready desk) (acts : List Act) :
    ∃ files, (Stage.after respond (.asking session) (acts.map Act.line)).runAt desk =
      (.ok (.asking ((deeds (Program.ofText session.source).table session.machine acts).foldl
          (take desk.day) session)),
        { desk with files }.showing
          ((deeds (Program.ofText session.source).table session.machine acts).flatMap
            session.page)) := by
  induction acts generalizing session desk with
  | nil => exact ⟨desk.files, by rw [List.map_nil, Stage.after_nil, runAt_pure]; simp [deeds]⟩
  | cons act acts ih =>
    -- An act changes what files hold and no directory, so the session is as ready after it.
    obtain ⟨files, hact, hsame⟩ := does_act h act
    obtain ⟨last, hrest⟩ := ih (h.take hsame _ _)
    rw [take_source, take_machine, take_page] at hrest
    refine ⟨last, ?_⟩
    rw [List.map_cons, Stage.after, runAt_bind_ok hact, hrest, deeds, List.flatMap_cons,
      ← Desk.showing_showing]
    rfl

theorem Deed.told_of_not_halts {deed : Deed} (h : deed.halts = false) : deed.told = deed.added := by
  cases deed with
  | refused => rfl
  | built machine => rfl
  | stepped machine =>
    obtain ⟨entry, hn⟩ := Machine.news_of_not_halts h
    rw [told, added, hn]
    rfl

/-- The user is told all that an act adds to the log, unless it is a step that halts the machine.
Then the entry about the halt is told, and the entry about the step is not. -/
theorem told_unless_halting_step (h : session.Ready desk) (acts : List Act) :
    let deeds := Session.deeds (Program.ofText session.source).table session.machine acts
    ∃ after last,
      (Stage.after respond (.asking session) (acts.map Act.line)).runAt desk =
        (.ok (.asking after), last) ∧
      last.shown.toList = desk.shown.toList ++ deeds.flatMap session.page ∧
      after.journal.records.toList = deeds.foldl Deed.logAfter session.journal.records.toList ∧
      ∀ deed ∈ deeds,
        (deed.halts = false → deed.told = deed.added) ∧
        (deed.halts = true → ∃ machine rule, deed = .stepped machine ∧
          machine.configuration.rule? machine.table = .ok rule ∧
          deed.added = [(machine.configuration.logged rule machine.table.blank).entry,
            .halted machine.step.2.configuration.state] ∧
          deed.told = [.halted machine.step.2.configuration.state]) := by
  intro deeds
  obtain ⟨files, hrun⟩ := does_acts h acts
  refine ⟨_, _, hrun, Array.toList_appendList .., foldl_take_records _ _ _, fun deed _ => ?_⟩
  refine ⟨Deed.told_of_not_halts, fun hh => ?_⟩
  cases deed with
  | refused => cases hh
  | built machine => cases hh
  | stepped machine =>
    obtain ⟨rule, hr, hn⟩ := Machine.news_of_halts hh
    exact ⟨machine, rule, rfl, hr, hn, by rw [Deed.told, hn]; rfl⟩

/-- A machine halts at its first step, is asked for another in vain, and is built anew. -/
theorem told_unless_halting_step_twice :
    let session : Session :=
      { settings := {}
        journal := { day := "2026-01-01" }
        source := "input: '1'\nstart state: s\ns:\n 1: \x7bwrite: 0, R: done\x7d" }
    let desk : Desk := { files := ⟨[(["logs"], .directory)]⟩, day := "2026-01-01" }
    let acts : List Act := [.step, .step, .step, .prepare]
    let deeds := Session.deeds (Program.ofText session.source).table session.machine acts
    session.Ready desk ∧ ∃ after last,
      (Stage.after respond (.asking session) (acts.map Act.line)).runAt desk =
        (.ok (.asking after), last) ∧
      last.shown.toList = deeds.flatMap session.page ∧
      after.journal.records.size = 1 ∧
      deeds.map (·.added.map Entry.message) =
        [["Initialized with 1 transitions\nInitial state: s, Tape: 1"],
          ["Step 1: s read 1 -> done\n  Write: 0\n  Move: Right to position 1",
            "Machine halted at state done"],
          ["Machine already halted. Reset to run again."],
          ["Initialized with 1 transitions\nInitial state: s, Tape: 1"]] ∧
      deeds.map (·.told.map Entry.message) =
        [["Initialized with 1 transitions\nInitial state: s, Tape: 1"],
          ["Machine halted at state done"],
          ["Machine already halted. Reset to run again."],
          ["Initialized with 1 transitions\nInitial state: s, Tape: 1"]] := by
  intro session desk acts deeds
  have hleads : desk.files.Leads "logs/turing_2026-01-01.jsonl"
      ["logs", "turing_2026-01-01.jsonl"] := by decide +kernel
  have hpath : session.journal.current = .whole "logs/turing_2026-01-01.jsonl" := by decide +kernel
  have hstorable : session.journal.Storable desk.files := fun _ =>
    ⟨_, _, congrArg Text.Wording.spelled hpath, hleads⟩
  have hready : session.Ready desk :=
    ⟨rfl, by decide, by decide, nofun, hstorable, hstorable⟩
  obtain ⟨after, last, hrun, hshown, hrecords, -⟩ := told_unless_halting_step hready acts
  have hsize : (deeds.foldl Deed.logAfter session.journal.records.toList).length = 1 := by
    decide +kernel
  have hcount : after.journal.records.size = 1 :=
    (congrArg List.length hrecords).trans hsize
  exact ⟨hready, after, last, hrun, hshown.trans (List.nil_append _), hcount, by decide +kernel,
    by decide +kernel⟩

/-- The step that halts a machine is in the log, and the user is not told of it. -/
theorem halting_step_untold :
    let session : Session :=
      { settings := { logSteps := false }
        journal := { onDisk := false, day := "2026-01-01" }
        source := "input: '1'\nstart state: s\ns:\n 1: \x7bwrite: 0, R: done\x7d" }
    let run := (Stage.after respond (.asking session) ["2", "3"]).runAt ⟨⟨[]⟩, "2026-01-01", #[], none⟩
    let message := "Step 1: s read 1 -> done\n  Write: 0\n  Move: Right to position 1"
    (run.1.toOption.bind Stage.state?).map (·.journal.messages.toOption) =
        some (some ["Initialized with 1 transitions\nInitial state: s, Tape: 1", message,
          "Machine halted at state done"]) ∧
      .text message ∉ run.2.shown.toList := by
  intro session run message
  have hready : session.Ready ⟨⟨[]⟩, "2026-01-01", #[], none⟩ :=
    ⟨rfl, by decide, by decide, nofun, nofun, nofun⟩
  have hmenu : session.menu = .text "\nTuring Machine Simulator" :: menuLines.map .text := menu_eq rfl
  have hpage : session.page = fun deed => session.before deed ++ deed.told.map Entry.shown ++
      session.boards deed ++ (.text "\nTuring Machine Simulator" :: menuLines.map .text) := by
    funext deed
    rw [page, hmenu]
  obtain ⟨files, hrun⟩ := does_acts hready [.prepare, .step]
  have hran : run = _ := hrun
  rw [hran, hpage]
  simp only [Except.toOption, Option.bind_some, Stage.state?, Option.map_some, Desk.showing]
  exact ⟨by decide +kernel, by decide +kernel⟩

end Session

end TapeMachine

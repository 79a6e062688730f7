import Mathlib.Data.List.Induction
import TapeMachine.Proofs.Files.Folders
import TapeMachine.Proofs.Files.Names
import TapeMachine.Proofs.Journal.Storing
import TapeMachine.Proofs.Records

namespace TapeMachine.Journal

open Files
open Record (OnLines linesOf linesOf_append)

/-- The files of a day: the main log, and the two beside it. -/
inductive Kind where
  | main
  | halting
  | errors
  deriving DecidableEq, Repr

/-- What is asked of a journal. In between, a new day of the calendar may begin. -/
inductive Call where
  | log (record : Record)
  | logBatch (records : List Record)
  | logHalting (records : List Record)
  | logErrors (records : List Record)
  | clear
  | rotate
  | dawn (day : String)

namespace Call

/-- The records that are to be stored, and the kind of file that they are for. -/
def sent? : Call → Option (Kind × List Record)
  | log record => some (.main, [record])
  | logBatch records => some (.main, records)
  | logHalting records => some (.halting, records)
  | logErrors records => some (.errors, records)
  | _ => none

/-- The records that are to be remembered. -/
def logged : Call → List Record
  | log record => [record]
  | logBatch records => records
  | _ => []

def dawn? : Call → Option String
  | dawn day => some day
  | _ => none

def isClear : Call → Bool
  | clear => true
  | _ => false

/-- The day that the main log is for and the day of the calendar, after a call. -/
def turn (pointed today : String) : Call → String × String
  | clear | rotate => (today, today)
  | dawn next => (pointed, next)
  | _ => (pointed, today)

/-- What a call sends to the file of a kind and a day, while the main log is for a certain day. -/
def sentTo (kind : Kind) (day pointed : String) (call : Call) : List (List Record) :=
  match call.sent? with
  | some (other, records) => if other = kind ∧ pointed = day then [records] else []
  | none => []

end Call

/-- What is sent to the file of a kind and a day, batch by batch. -/
def batches (kind : Kind) (day : String) : (pointed today : String) → List Call → List (List Record)
  | _, _, [] => []
  | pointed, today, call :: calls =>
    call.sentTo kind day pointed ++
      batches kind day (call.turn pointed today).1 (call.turn pointed today).2 calls

/-- The records that were logged since the journal was cleared last. -/
def sinceClear (calls : List Call) : List Record :=
  (calls.reverse.takeWhile (!·.isClear)).reverse.flatMap Call.logged

/-- A journal, and the day of the calendar. -/
structure InUse where
  journal : Journal
  today : String

namespace InUse

def call (use : InUse) : Call → FileTask InUse
  | .log record => do
    let (journal, storing) := use.journal.log [record]
    storing
    return { use with journal }
  | .logBatch records => do
    let (journal, storing) := use.journal.log records
    storing
    return { use with journal }
  | .logHalting records => do
    use.journal.logHalting records
    return use
  | .logErrors records => do
    use.journal.logErrors records
    return use
  | .clear => return { use with journal := use.journal.clear use.today }
  | .rotate => return { use with journal := use.journal.rotate use.today }
  | .dawn day => return { use with today := day }

def run (use : InUse) (calls : List Call) : FileTask InUse :=
  calls.foldlM call use

/-- The same without the files. -/
def next (use : InUse) : Call → InUse
  | .log record => { use with journal := use.journal.remember [record] }
  | .logBatch records => { use with journal := use.journal.remember records }
  | .clear => { use with journal := use.journal.clear use.today }
  | .rotate => { use with journal := use.journal.rotate use.today }
  | .dawn day => { use with today := day }
  | _ => use

end InUse

def fileOf (journal : Journal) : Kind → Text.Wording
  | .main => journal.current
  | .halting => journal.beside "halting"
  | .errors => journal.beside "errors"

/-- How the name of a file begins. -/
def startOf (fileStart : String) : Kind → String
  | .main => fileStart
  | .halting => "halting_"
  | .errors => "errors_"

def nameOf (fileStart : String) (kind : Kind) (day : String) : String :=
  startOf fileStart kind ++ day ++ ".jsonl"

def pathOf (directory fileStart : String) (kind : Kind) (day : String) : String :=
  below directory (nameOf fileStart kind day)

/-- A day as the calendar writes it. -/
def IsDate (day : String) : Prop :=
  day.toList.length = 10 ∧ ∀ c ∈ day.toList, c.isDigit ∨ c = '-'

/-- A journal on disk, in a directory and with a start of the names of its main logs. -/
structure IsAt (journal : Journal) (directory fileStart : String) : Prop where
  directory_eq : journal.directory = directory
  fileStart_eq : journal.fileStart = fileStart
  onDisk : journal.onDisk = true

/-- A start of names that keeps the main logs apart from the files beside them. -/
structure IsStart (fileStart : String) : Prop where
  slash_notMem : '/' ∉ fileStart.toList
  ne_halting : fileStart ≠ "halting_"
  ne_errors : fileStart ≠ "errors_"

variable {directory fileStart day other today : String} {kind kind' : Kind} {use : InUse}
variable {files mid last made : Tree} {place : Place} {calls : List Call} {days : List String}

theorem IsAt.fileOf_eq {journal : Journal} (h : journal.IsAt directory fileStart) (kind : Kind) :
    journal.fileOf kind = .whole (pathOf directory fileStart kind journal.day) := by
  obtain ⟨_, _, _, _, _⟩ := journal
  obtain ⟨rfl, rfl, _⟩ := h
  cases kind <;> rfl

theorem startOf_inj (h : IsStart fileStart) (he : startOf fileStart kind = startOf fileStart kind') :
    kind = kind' := by
  obtain ⟨-, hh, he'⟩ := h
  cases kind <;> cases kind' <;> simp_all [startOf, eq_comm]

theorem nameOf_inj (h : IsStart fileStart) (hd : IsDate day) (ho : IsDate other)
    (he : nameOf fileStart kind day = nameOf fileStart kind' other) : kind = kind' ∧ day = other := by
  have hlist := congrArg String.toList he
  simp only [nameOf, String.toList_append] at hlist
  obtain ⟨hs, hday⟩ := List.append_inj' (List.append_cancel_right hlist) (hd.1.trans ho.1.symm)
  exact ⟨startOf_inj h (String.toList_inj.mp hs), String.toList_inj.mp hday⟩

theorem proper_nameOf (h : IsStart fileStart) (hd : IsDate day) (kind : Kind) :
    '/' ∉ (nameOf fileStart kind day).toList ∧ nameOf fileStart kind day ≠ "" ∧
      nameOf fileStart kind day ≠ "." ∧ nameOf fileStart kind day ≠ ".." := by
  have hending : IsEnding ".jsonl" := ⟨by decide, by decide, by decide⟩
  have hstart : '/' ∉ (startOf fileStart kind).toList := by
    cases kind with
    | main => exact h.slash_notMem
    | halting => simp [startOf]
    | errors => simp [startOf]
  have hday : '/' ∉ day.toList := fun hm => absurd (hd.2 _ hm) (by decide)
  refine ⟨?_, hending.ne _ (by decide), hending.ne _ (by decide), hending.ne _ (by decide)⟩
  simp only [nameOf, String.toList_append, List.mem_append, not_or]
  exact ⟨⟨hstart, hday⟩, hending.slash⟩

/-- Each file of each day has a place of its own. -/
theorem leads_pathOf_inj (h : IsStart fileStart) (hd : IsDate day) (ho : IsDate other)
    (hl : files.Leads (pathOf directory fileStart kind day) place)
    (hl' : files.Leads (pathOf directory fileStart kind' other) place) :
    kind = kind' ∧ day = other :=
  nameOf_inj h hd ho (hl.below_inj (proper_nameOf h hd kind) (proper_nameOf h ho kind') hl')

/-- What is at a place once batches of records were added to the file there. Without a batch there
need not be one. -/
def grown (files : Tree) (place : Place) (batches : List (List Record)) : Option Node :=
  if batches = [] then files.node? place
  else some (.file (files.bytesAt place ++ (linesOf batches.flatten).toUTF8))

theorem grown_congr (h : mid.node? place = files.node? place) (batches : List (List Record)) :
    grown mid place batches = grown files place batches := by
  rw [grown, grown, h, Tree.bytesAt_congr h]

/-- A file that batches of records were added to, each record on a line of its own. Without a
batch it is left as it is, and without a record it is made if it is not there. -/
structure Grows (files last : Tree) (place : Place) (batches : List (List Record)) : Prop where
  untouched : batches = [] → last.node? place = files.node? place
  added : batches ≠ [] → ∃ text, OnLines batches.flatten text ∧
    last.node? place = some (.file (files.bytesAt place ++ text.toUTF8))

theorem grows_of_eq {batches : List (List Record)}
    (h : last.node? place = grown files place batches) : Grows files last place batches where
  untouched := fun hb => by rw [h, grown, if_pos hb]
  added := fun hb => ⟨_, Record.onLines_linesOf batches.flatten, by rw [h, grown, if_neg hb]⟩

/-- Batches that are added to what others were added to. -/
theorem grown_append {batches : List (List Record)} (h : mid.node? place = grown files place batches)
    (later : List (List Record)) :
    grown mid place later = grown files place (batches ++ later) := by
  by_cases hb : batches = []
  · subst hb
    exact grown_congr h later
  rw [grown, if_neg hb] at h
  by_cases hl : later = []
  · subst hl
    rw [List.append_nil, grown, if_pos rfl, h, grown, if_neg hb]
  have hne : batches ++ later ≠ [] := List.append_ne_nil_of_left_ne_nil hb later
  have hlines : (linesOf (batches ++ later).flatten).toUTF8 =
      (linesOf batches.flatten).toUTF8 ++ (linesOf later.flatten).toUTF8 := by
    rw [List.flatten_append, linesOf_append, String.toUTF8, String.toByteArray_append]
    rfl
  rw [grown, if_neg hl, grown, if_neg hne, Tree.bytesAt_of_file h, hlines, ByteArray.append_assoc]

namespace InUse

theorem call_eq (use : InUse) (call : Call) :
    use.call call = (do
      match call.sent? with
      | some (kind, records) => use.journal.store (use.journal.fileOf kind) records
      | none => pure ()
      return use.next call) := by
  cases call <;> rfl

theorem turn_eq (use : InUse) (call : Call) :
    call.turn use.journal.day use.today = ((use.next call).journal.day, (use.next call).today) := by
  cases call <;> rfl

theorem isAt_next (h : use.journal.IsAt directory fileStart) (call : Call) :
    (use.next call).journal.IsAt directory fileStart := by
  obtain ⟨hd, hs, hdisk⟩ := h
  cases call <;> exact ⟨hd, hs, hdisk⟩

theorem onDisk_next (use : InUse) (call : Call) :
    (use.next call).journal.onDisk = use.journal.onDisk := by
  cases call <;> rfl

theorem run_cons (use : InUse) (call : Call) (calls : List Call) :
    use.run (call :: calls) = use.call call >>= fun use => use.run calls :=
  List.foldlM_cons

/-- A journal that is not kept on disk leaves the files alone. -/
theorem run_nowhere (h : use.journal.onDisk = false) (calls : List Call) (files : Tree) :
    (use.run calls).runOn files = (.ok (calls.foldl next use), files) := by
  induction calls generalizing use with
  | nil => rfl
  | cons call calls ih =>
    have hcall : (use.call call).runOn files = (.ok (use.next call), files) := by
      rw [call_eq]
      cases call.sent? with
      | none => rfl
      | some sent => rw [FileTask.runOn_bind_ok (store_runOn_nowhere h _ _)]; rfl
    rw [run_cons, FileTask.runOn_bind_ok hcall, ih ((onDisk_next use call).trans h)]
    rfl

/-- On disk a call adds its records to the file that they are for, on the day of the main log. -/
theorem call_onDisk (h : use.journal.IsAt directory fileStart)
    (hl : ∀ kind, ∃ place, files.Leads (pathOf directory fileStart kind use.journal.day) place)
    (call : Call) :
    ∃ mid, (use.call call).runOn files = (.ok (use.next call), mid) ∧
      match call.sent? with
      | some (kind, records) =>
        ∃ place, files.Leads (pathOf directory fileStart kind use.journal.day) place ∧
          mid = files.edit ⟨place, (· ++ (linesOf records).toUTF8)⟩
      | none => mid = files := by
  rw [call_eq]
  cases call.sent? with
  | none => exact ⟨files, rfl, rfl⟩
  | some sent =>
    obtain ⟨kind, records⟩ := sent
    obtain ⟨place, hplace⟩ := hl kind
    have hs : (use.journal.fileOf kind).spelled =
        .ok (pathOf directory fileStart kind use.journal.day) := by
      rw [h.fileOf_eq]
      rfl
    refine ⟨_, ?_, place, hplace, rfl⟩
    rw [FileTask.runOn_bind_ok (store_runOn_onDisk h.onDisk hs hplace records)]
    rfl

/-- How files have been added to: those of the journal by what was sent to them, others not. -/
structure Adds (directory fileStart : String) (days : List String) (files last : Tree)
    (batches : Kind → String → List (List Record)) : Prop where
  directories : files.SameDirectories last
  grown : ∀ kind, ∀ day ∈ days, ∀ place, files.Leads (pathOf directory fileStart kind day) place →
    last.node? place = grown files place (batches kind day)
  others : ∀ place, (∀ kind, ∀ day ∈ days,
    ¬files.Leads (pathOf directory fileStart kind day) place) → last.node? place = files.node? place

theorem adds_nil (directory fileStart : String) (days : List String) (files : Tree) :
    Adds directory fileStart days files files fun _ _ => [] :=
  ⟨.refl files, fun _ _ _ _ _ => rfl, fun _ _ => rfl⟩

theorem Adds.trans {batches later : Kind → String → List (List Record)}
    (h : Adds directory fileStart days files mid batches)
    (h' : Adds directory fileStart days mid last later) :
    Adds directory fileStart days files last fun kind day => batches kind day ++ later kind day where
  directories := h.directories.trans h'.directories
  grown := by
    intro kind day hday place hplace
    rw [h'.grown kind day hday place (hplace.of_sameDirectories h.directories)]
    exact grown_append (h.grown kind day hday place hplace) (later kind day)
  others := by
    intro place hplace
    have hmid : ∀ kind, ∀ day ∈ days, ¬mid.Leads (pathOf directory fileStart kind day) place :=
      fun kind day hday hm =>
        hplace kind day hday (hm.of_sameDirectories h.directories.symm)
    rw [h'.others place hmid, h.others place hplace]

/-- A batch at the end of one file of the journal. -/
theorem adds_edit (hs : IsStart fileStart) (hd : ∀ day ∈ days, IsDate day) {kind : Kind}
    {day : String} (hday : day ∈ days)
    (hplace : files.Leads (pathOf directory fileStart kind day) place) (records : List Record) :
    Adds directory fileStart days files
      (files.edit ⟨place, (· ++ (linesOf records).toUTF8)⟩) fun other day' =>
        if kind = other ∧ day = day' then [records] else [] where
  directories := Tree.sameDirectories_edit hplace.2
  grown := by
    intro other day' hday' place' hplace'
    split
    next he =>
      obtain ⟨rfl, rfl⟩ := he
      obtain rfl : place' = place := by
        have hr := hplace'.1.symm.trans hplace.1
        simpa using hr
      rw [Tree.node?_edit_self hplace.2, Journal.grown, if_neg (List.cons_ne_nil _ _)]
      simp
    next he =>
      have hne : place' ≠ place := by
        rintro rfl
        exact he (leads_pathOf_inj hs (hd _ hday) (hd _ hday') hplace hplace')
      rw [Tree.node?_edit_of_ne hne]
      rfl
  others := by
    intro place' hplace'
    refine Tree.node?_edit_of_ne ?_
    rintro rfl
    exact hplace' kind _ hday hplace

theorem adds_call (hs : IsStart fileStart) (hd : ∀ day ∈ days, IsDate day)
    (h : use.journal.IsAt directory fileStart) (hday : use.journal.day ∈ days)
    (hl : ∀ kind, ∀ day ∈ days, ∃ place, files.Leads (pathOf directory fileStart kind day) place)
    (call : Call) :
    ∃ mid, (use.call call).runOn files = (.ok (use.next call), mid) ∧
      Adds directory fileStart days files mid fun kind day =>
        call.sentTo kind day use.journal.day := by
  obtain ⟨mid, hrun, hmid⟩ := call_onDisk h (fun kind => hl kind _ hday) call
  refine ⟨mid, hrun, ?_⟩
  unfold Call.sentTo
  cases hsent : call.sent? with
  | none =>
    rw [hsent] at hmid
    simp only at hmid ⊢
    rw [hmid]
    exact adds_nil directory fileStart days files
  | some sent =>
    obtain ⟨kind, records⟩ := sent
    rw [hsent] at hmid
    obtain ⟨place, hplace, rfl⟩ := hmid
    exact adds_edit hs hd hday hplace records

theorem run_onDisk (hs : IsStart fileStart) (hd : ∀ day ∈ days, IsDate day)
    (h : use.journal.IsAt directory fileStart) (hday : use.journal.day ∈ days)
    (htoday : use.today ∈ days) (hdawns : ∀ day ∈ calls.filterMap Call.dawn?, day ∈ days)
    (hl : ∀ kind, ∀ day ∈ days, ∃ place, files.Leads (pathOf directory fileStart kind day) place) :
    ∃ last, (use.run calls).runOn files = (.ok (calls.foldl next use), last) ∧
      Adds directory fileStart days files last fun kind day =>
        batches kind day use.journal.day use.today calls := by
  induction calls generalizing use files with
  | nil => exact ⟨files, rfl, adds_nil directory fileStart days files⟩
  | cons call calls ih =>
    obtain ⟨mid, hcall, hmid⟩ := adds_call hs hd h hday hl call
    have hturn := turn_eq use call
    have hdays : (use.next call).journal.day ∈ days ∧ (use.next call).today ∈ days := by
      cases call with
      | dawn next => exact ⟨hday, hdawns next (by simp [Call.dawn?])⟩
      | clear => exact ⟨htoday, htoday⟩
      | rotate => exact ⟨htoday, htoday⟩
      | log => exact ⟨hday, htoday⟩
      | logBatch => exact ⟨hday, htoday⟩
      | logHalting => exact ⟨hday, htoday⟩
      | logErrors => exact ⟨hday, htoday⟩
    have hrest : ∀ day ∈ calls.filterMap Call.dawn?, day ∈ days := fun day hm =>
      hdawns day ((List.sublist_cons_self call calls).filterMap _ |>.subset hm)
    -- A call changes what files hold, so a path that led to a place leads to it still.
    have hlater : ∀ kind, ∀ day ∈ days, ∃ place,
        mid.Leads (pathOf directory fileStart kind day) place := fun kind day hm =>
      (hl kind day hm).imp fun place hplace => hplace.of_sameDirectories hmid.directories
    obtain ⟨last, hrun, hlast⟩ := ih (isAt_next h call) hdays.1 hdays.2 hrest hlater
    refine ⟨last, ?_, ?_⟩
    · rw [run_cons, FileTask.runOn_bind_ok hcall, hrun]
      rfl
    · simpa only [batches, hturn] using hmid.trans hlast

end InUse

theorem sinceClear_concat (calls : List Call) (call : Call) :
    sinceClear (calls ++ [call]) = if call.isClear then [] else sinceClear calls ++ call.logged := by
  unfold sinceClear
  rw [List.reverse_append, List.reverse_singleton, List.singleton_append, List.takeWhile_cons]
  cases call.isClear <;> simp

namespace InUse

theorem records_next (use : InUse) (call : Call) :
    (use.next call).journal.records.toList =
      if call.isClear then [] else use.journal.records.toList ++ call.logged := by
  cases call <;> simp [next, Call.isClear, Call.logged, remember, Journal.clear, Journal.rotate]

/-- A journal with nothing to remember remembers what was logged since it was cleared. -/
theorem records_foldl_next (h : use.journal.records = #[]) (calls : List Call) :
    (calls.foldl next use).journal.records.toList = sinceClear calls := by
  induction calls using List.reverseRecOn with
  | nil => simp [h, sinceClear]
  | append_singleton calls call ih =>
    rw [List.foldl_append, sinceClear_concat, ← ih]
    exact records_next _ call

end InUse

/-- A new journal in use. -/
def opened (directory fileStart : String) (onDisk : Bool) (today : String) : InUse where
  journal := { directory, fileStart, onDisk, day := today }
  today := today

/-- The directory is there or is made, and each file of each day can be written. -/
structure Writable (directory fileStart : String) (days : List String) (files made : Tree) :
    Prop where
  makes : (FileTask.makeDirectories directory).runOn files = (.ok (), made)
  leads : ∀ kind, ∀ day ∈ days, ∃ place, made.Leads (pathOf directory fileStart kind day) place

theorem Writable.furnishes (h : Writable directory fileStart days files made) :
    files.Furnishes made := by
  obtain ⟨_, _, hm⟩ := FileTask.ok_of_makeDirectories h.makes
  exact Tree.furnishes_of_makeDirectories hm

/-- Whatever is asked of a new journal, and whenever days begin, it remembers just what was logged
since it was cleared. On disk it adds to each file of each day just what was sent to it, in order,
while that was the day of the main log, and to no other file. Not on disk it leaves all files
alone. -/
theorem every_record_in_its_file {onDisk : Bool} (hs : IsStart fileStart)
    (hd : ∀ day ∈ today :: calls.filterMap Call.dawn?, IsDate day)
    (hw : onDisk = true →
      Writable directory fileStart (today :: calls.filterMap Call.dawn?) files made) :
    let use := opened directory fileStart onDisk today
    let days := today :: calls.filterMap Call.dawn?
    ∃ after last, (use.journal.start >>= fun _ => use.run calls).runOn files = (.ok after, last) ∧
      after.journal.records.toList = sinceClear calls ∧
      (onDisk = false → last = files) ∧
      (onDisk = true →
        (∀ kind, ∀ day ∈ days, ∃ place, last.Leads (pathOf directory fileStart kind day) place ∧
          Grows files last place (batches kind day today today calls)) ∧
        ∀ place, last.Free place →
          (∀ kind, ∀ day ∈ days, ¬last.Leads (pathOf directory fileStart kind day) place) →
          last.node? place = files.node? place) := by
  intro use days
  have hrecords := @InUse.records_foldl_next use rfl calls
  cases onDisk with
  | false =>
    have hstart : use.journal.start.runOn files = (.ok (), files) := rfl
    refine ⟨_, files, ?_, hrecords, fun _ => rfl, nofun⟩
    rw [FileTask.runOn_bind_ok hstart, InUse.run_nowhere rfl]
  | true =>
    have hwritable := hw rfl
    have hfurnishes := hwritable.furnishes
    have hstart : use.journal.start.runOn files = (.ok (), made) := hwritable.makes
    obtain ⟨last, hrun, hadds⟩ := @InUse.run_onDisk directory fileStart use made calls days hs hd
      ⟨rfl, rfl, rfl⟩ List.mem_cons_self List.mem_cons_self
      (fun day hm => List.mem_cons_of_mem today hm) hwritable.leads
    refine ⟨_, last, by rw [FileTask.runOn_bind_ok hstart, hrun], hrecords, nofun, fun _ => ⟨?_, ?_⟩⟩
    · intro kind day hday
      obtain ⟨place, hplace⟩ := hwritable.leads kind day hday
      refine ⟨place, hplace.of_sameDirectories hadds.directories, grows_of_eq ?_⟩
      rw [hadds.grown kind day hday place hplace]
      exact grown_congr (hfurnishes place hplace.2) _
    · intro place hfree hothers
      have hmade : ∀ kind, ∀ day ∈ days,
          ¬made.Leads (pathOf directory fileStart kind day) place := fun kind day hday hm =>
        hothers kind day hday (hm.of_sameDirectories hadds.directories)
      rw [hadds.others place hmade, hfurnishes place ((hadds.directories place).mpr hfree)]

/-- A batch after midnight still goes to the day before, and what follows a clearing to the new
day. The empty batch leaves an empty file. -/
theorem every_record_in_its_file_midnight :
    let a : Record := [("event", .str "already_halted")]
    let b : Record := [("event", .str "halted"), ("state", .str "done")]
    let already := "\x7b\"event\": \"already_halted\"\x7d\n"
    let halted := "\x7b\"event\": \"halted\", \"state\": \"done\"\x7d\n"
    let calls : List Call := [.log a, .dawn "2026-01-02", .logBatch [b, a], .logErrors [b], .clear,
      .logHalting [], .log b]
    let use := opened "logs/" "turing_" true "2026-01-01"
    IsStart "turing_" ∧ IsDate "2026-01-01" ∧ IsDate "2026-01-02" ∧
      ∃ after last, (use.journal.start >>= fun _ => use.run calls).runOn ⟨[]⟩ = (.ok after, last) ∧
        after.journal.records.toList = [b] ∧
        (∃ place, last.Leads "logs/turing_2026-01-01.jsonl" place ∧
          last.node? place = some (.file (already ++ halted ++ already).toUTF8)) ∧
        (∃ place, last.Leads "logs/halting_2026-01-02.jsonl" place ∧
          last.node? place = some (.file .empty)) ∧
        ∃ place, last.Leads "logs/turing_2026-01-02.jsonl" place ∧
          last.node? place = some (.file halted.toUTF8) := by
  intro a b already halted calls use
  have hs : IsStart "turing_" := ⟨by decide, by decide, by decide⟩
  have hdates : IsDate "2026-01-01" ∧ IsDate "2026-01-02" :=
    ⟨⟨rfl, by simp⟩, rfl, by simp⟩
  have hd : ∀ day ∈ "2026-01-01" :: calls.filterMap Call.dawn?, IsDate day := by
    simpa [calls, Call.dawn?] using hdates
  have hw : true = true → Writable "logs/" "turing_" ("2026-01-01" :: calls.filterMap Call.dawn?)
      ⟨[]⟩ ⟨[(["logs"], .directory)]⟩ := by
    intro _
    refine ⟨rfl, fun kind day hday => ⟨["logs", nameOf "turing_" kind day], ?_⟩⟩
    simp only [calls, List.filterMap_cons, Call.dawn?, List.filterMap_nil, List.mem_cons,
      List.not_mem_nil, or_false] at hday
    rcases hday with rfl | rfl <;> cases kind <;> decide +kernel
  obtain ⟨after, last, hrun, hrecords, -, hdisk⟩ := every_record_in_its_file hs hd hw
  obtain ⟨hfiles, -⟩ := hdisk rfl
  have hempty : ∀ place, (Tree.mk []).bytesAt place = .empty := by
    intro place
    cases place <;> rfl
  have hmem : "2026-01-01" ∈ "2026-01-01" :: calls.filterMap Call.dawn? ∧
      "2026-01-02" ∈ "2026-01-01" :: calls.filterMap Call.dawn? := by
    simp [calls, Call.dawn?]
  have hgrown : ∀ {place batches}, Grows ⟨[]⟩ last place batches → batches ≠ [] →
      last.node? place = some (.file (linesOf batches.flatten).toUTF8) := by
    intro place batches hg hb
    obtain ⟨text, ht, hnode⟩ := hg.added hb
    rw [hnode, hempty, ht.eq_linesOf, ByteArray.empty_append]
  obtain ⟨first, hl, hg⟩ := hfiles .main _ hmem.1
  obtain ⟨beside, hl', hg'⟩ := hfiles .halting _ hmem.2
  obtain ⟨second, hl'', hg''⟩ := hfiles .main _ hmem.2
  have hb : batches .main "2026-01-01" "2026-01-01" "2026-01-01" calls = [[a], [b, a]] := rfl
  have hb' : batches .halting "2026-01-02" "2026-01-01" "2026-01-01" calls = [[]] := rfl
  have hb'' : batches .main "2026-01-02" "2026-01-01" "2026-01-01" calls = [[b]] := rfl
  rw [hb] at hg
  rw [hb'] at hg'
  rw [hb''] at hg''
  have hlines : linesOf [a, b, a] = already ++ halted ++ already := by decide +kernel
  have hlines' : linesOf [b] = halted := by decide +kernel
  refine ⟨hs, hdates.1, hdates.2, after, last, hrun, hrecords, ⟨first, hl, ?_⟩,
    ⟨beside, hl', ?_⟩, second, hl'', ?_⟩
  · rw [← hlines]
    exact hgrown hg (List.cons_ne_nil _ _)
  · exact hgrown hg' (List.cons_ne_nil _ _)
  · rw [← hlines']
    exact hgrown hg'' (List.cons_ne_nil _ _)

end TapeMachine.Journal

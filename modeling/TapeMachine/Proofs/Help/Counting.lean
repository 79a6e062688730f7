import Mathlib.Algebra.Group.Nat.Defs
import TapeMachine.Proofs.Files.Folders
import TapeMachine.Proofs.Files.Tasks
import TapeMachine.Proofs.Help.Tallies
import TapeMachine.Proofs.Json.Printed

namespace TapeMachine.Help

open Files Text

/-- What is done with counters: one counts a question, or one is looked at. -/
inductive Turn where
  | count (counter : Counter) (question : String)
  | look (counter : Counter)

namespace Turn

def counter : Turn → Counter
  | count counter _ => counter
  | look counter => counter

def asked? : Turn → Option String
  | count _ question => some question
  | look _ => none

/-- What the looks show, while turn after turn is taken. -/
def looks : List Turn → FileTask (List Json)
  | [] => return []
  | count counter question :: turns => do
    counter.increment question
    looks turns
  | look counter :: turns => do
    let counts ← counter.read
    return counts :: (← looks turns)

/-- The questions counted before each look, after those that had been counted before. -/
def askedAt (asked : List String) : List Turn → List (List String)
  | [] => []
  | count _ question :: turns => askedAt (asked ++ [question]) turns
  | look _ :: turns => asked :: askedAt asked turns

end Turn

variable {files made after fresh : Tree} {counter : Counter} {counts : Json.Fields}
variable {question home name : String} {place : Place} {asked : List String}

namespace Counter

/-- What an increment does to the files, once it has the counts. -/
def update (counter : Counter) (counts : Json.Fields) : FileTask Unit := do
  FileTask.makeDirectories (homeOf counter.path)
  counter.store counts

theorem increment_eq (counter : Counter) (question : String) :
    counter.increment question = (do
      let counts ← FileTask.attempt (incremented (← counter.read) question)
      tryCatch (counter.update counts) fun fault => do
        if fault.isRefusal then counter.warnOf "update FAQ counters at" fault else throw fault) :=
  rfl

/-- Counts can be written, as long as there are none. -/
def Writable (counter : Counter) (files : Tree) : Prop :=
  ∃ after, (counter.update []).runOn files = (.ok (), after)

/-- Where the file of a counter goes, and the directory that is made for it. -/
structure Goes (counter : Counter) (files made : Tree) (home name : String) (place : Place) :
    Prop where
  home_spelled : (homeOf counter.path).spelled = .ok home
  name_spelled : counter.path.spelled = .ok name
  makes : files.makeDirectories home = (made, none)
  leads : made.Leads name place

theorem store_eq (h : (Json.obj counts).IsShort) (counter : Counter) :
    counter.store counts = (do
      let path ← FileTask.spelled counter.path
      FileTask.write path (Json.obj counts).indented) := by
  simp only [store, FileTask.writeJson_of_isShort h]

theorem Writable.goes (h : counter.Writable files) :
    ∃ made home name place, counter.Goes files made home name place := by
  obtain ⟨after, h⟩ := h
  obtain ⟨_, made, hmake, hstore⟩ := FileTask.ok_of_bind h
  obtain ⟨home, hhome, hmade⟩ := FileTask.ok_of_makeDirectories hmake
  rw [store_eq (Json.isShort_obj_iff.mpr (List.forall_mem_nil _))] at hstore
  obtain ⟨name, _, hspelled, hwrite⟩ := FileTask.ok_of_bind hstore
  obtain ⟨hname, rfl⟩ := FileTask.ok_of_spelled hspelled
  obtain ⟨place, hleads⟩ := FileTask.leads_of_write hwrite
  exact ⟨made, home, name, place, hhome, hname, hmade, hleads⟩

/-- The file of a counter is where it goes, with these counts. -/
def Holds (counter : Counter) (files : Tree) (counts : Json.Fields) : Prop :=
  ∃ home name place, counter.Goes files files home name place ∧
    files.node? place = some (.file (Json.obj counts).indented.toUTF8)

theorem Goes.update (h : counter.Goes files made home name place)
    (hs : (Json.obj counts).IsShort) :
    ∃ after, (counter.update counts).runOn files = (.ok (), after) ∧
      counter.Holds after counts := by
  let e : Tree.Edit := ⟨place, fun _ => (Json.obj counts).indented.toUTF8⟩
  have hsame : made.SameDirectories (made.edit e) := Tree.sameDirectories_edit h.leads.2
  have hhome : (made.edit e).hasDirectory home :=
    Tree.hasDirectory_of_sameDirectories hsame (Tree.hasDirectory_of_makeDirectories h.makes)
  refine ⟨made.edit e, ?_, home, name, place, ?_, Tree.node?_edit_self h.leads.2⟩
  · have hmake : (FileTask.makeDirectories (homeOf counter.path)).runOn files = (.ok (), made) := by
      rw [FileTask.runOn_makeDirectories h.home_spelled, h.makes]
    rw [Counter.update, FileTask.runOn_bind_ok hmake, store_eq hs,
      FileTask.runOn_bind_ok (FileTask.runOn_spelled h.name_spelled made)]
    exact FileTask.runOn_write_of_leads h.leads _
  · exact ⟨h.home_spelled, h.name_spelled, Tree.makeDirectories_of_hasDirectory hhome,
      h.leads.of_sameDirectories hsame⟩

theorem read_of_absent (hn : counter.path.spelled = .ok name) (ha : files.pathExists name = false) :
    counter.read.runOn files = (.ok (.obj []), files) := by
  rw [read, hn]
  simp only [readAt]
  rw [FileTask.runOn_bind, FileTask.runOn_get]
  simp only [ha]
  rfl

theorem Holds.read (h : counter.Holds files counts)
    (hl : Json.Legible Json.maxDepth (.obj counts)) :
    counter.read.runOn files = (.ok (.obj counts), files) := by
  obtain ⟨home, name, place, hg, hn⟩ := h
  have hexists : files.pathExists name = true := by
    simp [Tree.pathExists, Tree.found?, hg.leads.1, hn]
  have htext := hg.leads.readText hn (Json.return_notMem_indented (.obj counts))
  have hread := FileTask.runOn_readJson_of_readText htext (Json.read_indented hl)
  rw [Counter.read, hg.name_spelled]
  simp only [readAt]
  rw [FileTask.runOn_bind, FileTask.runOn_get]
  simp only [hexists, if_true]
  rw [FileTask.runOn_tryCatch, hread]

/-- The files after some questions were counted in fresh ones: those where nothing was, and later
those where the file holds the tally. -/
def Stands (counter : Counter) (fresh : Tree) (asked : List String) (files : Tree) : Prop :=
  asked = [] ∧ files = fresh ∨ counter.Holds files (Tally.ofAsked asked).fields

variable (hw : counter.Writable fresh) (hn : counter.path.spelled = .ok name)
variable (ha : fresh.pathExists name = false)

include hn ha in
theorem Stands.read (h : counter.Stands fresh asked files)
    (hb : ∀ question, asked.count question < 10 ^ maxDigits) :
    counter.read.runOn files = (.ok (.obj (Tally.ofAsked asked).fields), files) := by
  obtain ⟨rfl, rfl⟩ | h := h
  · exact read_of_absent hn ha
  · exact h.read (Tally.legible_fields hb)

include hw in
theorem Stands.goes (h : counter.Stands fresh asked files) :
    ∃ made home name place, counter.Goes files made home name place := by
  obtain ⟨rfl, rfl⟩ | ⟨home, name, place, hg, _⟩ := h
  · exact hw.goes
  · exact ⟨files, home, name, place, hg⟩

include hw hn ha in
/-- An increment reads what was asked before and writes that and one question more. -/
theorem Stands.increment (h : counter.Stands fresh asked files)
    (hb : ∀ other, (asked ++ [question]).count other < 10 ^ maxDigits) :
    ∃ after, (counter.increment question).runOn files = (.ok (), after) ∧
      counter.Stands fresh (asked ++ [question]) after := by
  have hb' : ∀ other, asked.count other < 10 ^ maxDigits := fun other =>
    Nat.lt_of_le_of_lt ((List.sublist_append_left asked [question]).count_le other) (hb other)
  obtain ⟨made, home, _, place, hg⟩ := h.goes hw
  have hs := (Tally.legible_fields hb).isShort
  obtain ⟨after, hupdate, hholds⟩ := hg.update hs
  refine ⟨after, ?_, .inr hholds⟩
  rw [increment_eq, FileTask.runOn_bind_ok (h.read hn ha hb'), Tally.incremented_fields,
    ← Tally.ofAsked_concat, FileTask.runOn_bind_ok (FileTask.runOn_attempt _ files),
    FileTask.runOn_tryCatch, hupdate]

end Counter

open Turn

theorem looks_of_stands (hw : counter.Writable fresh) (hn : counter.path.spelled = .ok name)
    (ha : fresh.pathExists name = false) {turns : List Turn}
    (hc : ∀ turn ∈ turns, turn.counter = counter)
    (hb : ∀ question, (asked ++ turns.filterMap asked?).count question < 10 ^ maxDigits)
    (h : counter.Stands fresh asked files) :
    ∃ after, (looks turns).runOn files =
      (.ok ((askedAt asked turns).map fun asked => .obj (Tally.ofAsked asked).fields), after) := by
  induction turns generalizing asked files with
  | nil => exact ⟨files, rfl⟩
  | cons turn turns ih =>
    have hc' : ∀ turn ∈ turns, turn.counter = counter := fun other ho =>
      hc other (List.mem_cons_of_mem turn ho)
    have hcounter := hc turn List.mem_cons_self
    cases turn with
    | count other question =>
      obtain rfl : other = counter := hcounter
      have hrest : ∀ question', (asked ++ [question] ++ turns.filterMap asked?).count question' <
          10 ^ maxDigits := by
        simpa [asked?, List.append_assoc] using hb
      have hone : ∀ question', (asked ++ [question]).count question' < 10 ^ maxDigits :=
        fun question' => Nat.lt_of_le_of_lt
          ((List.sublist_append_left _ (turns.filterMap asked?)).count_le question')
          (hrest question')
      obtain ⟨between, hincrement, hstands⟩ := h.increment hw hn ha hone
      obtain ⟨after, hlooks⟩ := ih hc' hrest hstands
      exact ⟨after, by rw [looks, FileTask.runOn_bind_ok hincrement, hlooks]; rfl⟩
    | look other =>
      obtain rfl : other = counter := hcounter
      have hbefore : ∀ question, asked.count question < 10 ^ maxDigits := fun question =>
        Nat.lt_of_le_of_lt ((List.sublist_append_left asked _).count_le question) (hb question)
      obtain ⟨after, hlooks⟩ := ih hc' hb h
      refine ⟨after, ?_⟩
      rw [looks, FileTask.runOn_bind_ok (h.read hn ha hbefore), FileTask.runOn_bind_ok hlooks]
      rfl

/-- Counters that share a file which was not there show what a tally kept in mind would: every
question that was asked before, in the order of the first times, with how often it was. -/
theorem file_counts_as_tally {path : Wording} (hw : Counter.Writable ⟨path⟩ files)
    (hn : path.spelled = .ok name) (ha : files.pathExists name = false) {turns : List Turn}
    (hc : ∀ turn ∈ turns, turn.counter.path = path)
    (hb : ∀ question, (turns.filterMap asked?).count question < 10 ^ maxDigits) :
    (∃ after, (looks turns).runOn files =
      (.ok ((askedAt [] turns).map fun asked => .obj (Tally.ofAsked asked).fields), after)) ∧
    ∀ asked, Tally.ofAsked asked =
      (distinct asked).map fun question => (question, asked.count question) := by
  have hcounter : ∀ turn ∈ turns, turn.counter = ⟨path⟩ := fun turn ht =>
    congrArg Counter.mk (hc turn ht)
  exact ⟨looks_of_stands hw hn ha hcounter hb (.inl ⟨rfl, rfl⟩), Tally.ofAsked_eq⟩

/-- Two counters at one file below a directory that is yet to be made. -/
theorem file_counts_as_tally_twice :
    let first : Counter := ⟨"logs/counts.json"⟩
    let second : Counter := ⟨"logs/counts.json"⟩
    let turns : List Turn :=
      [.look first, .count first "b", .count second "a", .count first "b", .look second]
    (Tree.mk []).pathExists "logs/counts.json" = false ∧
    ∃ after, (looks turns).runOn ⟨[]⟩ =
      (.ok [.obj [], .obj [("b", .int 2), ("a", .int 1)]], after) := by
  intro first second turns
  have hw : Counter.Writable ⟨"logs/counts.json"⟩ ⟨[]⟩ := ⟨_, rfl⟩
  have ha : (Tree.mk []).pathExists "logs/counts.json" = false := by decide
  have hb : ∀ question, (turns.filterMap asked?).count question < 10 ^ maxDigits := fun question =>
    calc (turns.filterMap asked?).count question ≤ 3 := List.count_le_length
      _ < 10 ^ 1 := by decide
      _ ≤ 10 ^ maxDigits := Nat.pow_le_pow_right (by decide) (by decide)
  have hc : ∀ turn ∈ turns, turn.counter.path = "logs/counts.json" := by
    simp [turns, first, second, Turn.counter]
  obtain ⟨⟨after, hlooks⟩, _⟩ := file_counts_as_tally hw rfl ha hc hb
  exact ⟨ha, after, hlooks⟩

end TapeMachine.Help

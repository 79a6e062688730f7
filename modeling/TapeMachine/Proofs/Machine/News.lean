import TapeMachine.Proofs.Machine.Log

namespace TapeMachine.Machine

variable {machine : Machine}

/-- The entries that a step adds to the log. -/
def news (machine : Machine) : List Entry :=
  (machine.step.2.log.extract machine.log.size).toList

/-- Whether a step halts the machine. -/
def halts (machine : Machine) : Bool :=
  !machine.halted && machine.step.2.halted

theorem news_eq {more : List Entry}
    (h : machine.step.2.log.toList = machine.log.toList ++ more) : machine.news = more := by
  rw [news, Array.toList_extract, List.extract_eq_take_drop,
    List.take_of_length_le (by simp), h,
    List.drop_left' Array.length_toList]

/-- A step that halts the machine adds two entries, the last one about the halt. -/
theorem news_of_halts (h : machine.halts = true) :
    ∃ rule, machine.configuration.rule? machine.table = .ok rule ∧
      machine.news = [(machine.configuration.logged rule machine.table.blank).entry,
        .halted machine.step.2.configuration.state] := by
  obtain ⟨hafter, hbefore⟩ := Bool.and_eq_true_iff.mp h |>.symm
  obtain ⟨hc, _⟩ | ⟨missing, hh, _, hs⟩ | ⟨rule, hh, hr, hs⟩ := step_cases machine
  · simp [hc] at hbefore
  · rw [hs, halted] at hafter
    exact absurd (hafter.symm.trans hh) (by decide)
  · refine ⟨rule, hr, news_eq ?_⟩
    rw [hs] at hafter ⊢
    have hclosing : closing (machine.fired rule).configuration =
        [.halted (machine.fired rule).configuration.state] := if_pos hafter
    rw [← hclosing]
    exact (Array.toList_appendList ..).trans (congrArg _ (entries_eq ..))

/-- Any other step adds one. -/
theorem news_of_not_halts (h : machine.halts = false) : ∃ entry, machine.news = [entry] := by
  obtain ⟨_, hs⟩ | ⟨missing, _, _, hs⟩ | ⟨rule, hh, hr, hs⟩ := step_cases machine
  · exact ⟨.alreadyHalted, news_eq (by rw [hs, Array.toList_push])⟩
  · exact ⟨.missing missing, news_eq (by rw [hs, Array.toList_push])⟩
  · refine ⟨(machine.configuration.logged rule machine.table.blank).entry, news_eq ?_⟩
    rw [halts, hh, hs] at h
    rw [hs]
    have hclosing : closing (machine.fired rule).configuration = [] :=
      if_neg (by simpa [halted] using h)
    refine (Array.toList_appendList ..).trans (congrArg _ ((entries_eq ..).trans ?_))
    exact congrArg _ hclosing

theorem news_eq_concat (machine : Machine) :
    ∃ earlier last, machine.news = earlier ++ [last] := by
  cases h : machine.halts with
  | false =>
    obtain ⟨entry, hn⟩ := news_of_not_halts h
    exact ⟨[], entry, hn⟩
  | true =>
    obtain ⟨rule, _, hn⟩ := news_of_halts h
    exact ⟨[_], _, hn⟩

end TapeMachine.Machine

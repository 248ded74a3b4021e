import ApexConstants.Generation

namespace ApexConstants

namespace Work

variable {α β : Type}

theorem doneAt_pure (a : α) (w : Workplace) : (pure a : Work α).doneAt w = (.ok a, w) := rfl

/-- Work goes on where the work before it has left off, unless that has failed. -/
theorem doneAt_bind (work : Work α) (next : α → Work β) (w : Workplace) :
    (work >>= next).doneAt w = match work.doneAt w with
      | (.ok a, after) => (next a).doneAt after
      | (.error fault, after) => (.error fault, after) := by
  change (ExceptT.bindCont next (work.doneAt w).1 : StateM Workplace _) (work.doneAt w).2 = _
  rcases work.doneAt w with ⟨fault | a, after⟩ <;> rfl

/-- Work that succeeds has succeeded step by step. -/
theorem ok_of_bind {work : Work α} {next : α → Work β} {w : Workplace} {b : β}
    (h : ((work >>= next).doneAt w).1 = .ok b) :
    ∃ a, (work.doneAt w).1 = .ok a ∧ ((next a).doneAt (work.doneAt w).2).1 = .ok b := by
  rw [doneAt_bind] at h
  rcases hdone : work.doneAt w with ⟨fault | a, after⟩
  · rw [hdone] at h
    cases h
  · rw [hdone] at h
    exact ⟨a, rfl, h⟩

theorem doneAt_get (w : Workplace) : (get : Work Workplace).doneAt w = (.ok w, w) := rfl

theorem doneAt_set (w w' : Workplace) : (set w' : Work PUnit).doneAt w = (.ok ⟨⟩, w') := rfl

theorem doneAt_report (entries : List LogEntry) (w : Workplace) :
    (report entries).doneAt w = (.ok (), { w with log := w.log ++ entries }) := rfl

theorem doneAt_ofExcept (outcome : Except Failure α) (w : Workplace) :
    (ofExcept outcome).doneAt w = (outcome, w) := by cases outcome <;> rfl

theorem doneAt_attempt (work : Work α) (w : Workplace) :
    work.attempt.doneAt w = (.ok (work.doneAt w).1, (work.doneAt w).2) := rfl

end Work

/-- Between two workplaces names are made by the same rules, and nothing in the log of what was done
is an error. -/
structure Quietly (w after : Workplace) : Prop where
  sameRules : after.namer.rules = w.namer.rules
  log : ∃ more, after.log = w.log ++ more ∧ ∀ e ∈ more, e.severity ≠ .error

theorem Quietly.refl (w : Workplace) : Quietly w w := ⟨rfl, [], by simp⟩

theorem Quietly.trans {w w' w'' : Workplace} (h : Quietly w w') (h' : Quietly w' w'') :
    Quietly w w'' := by
  obtain ⟨more, hmore, hquiet⟩ := h.log
  obtain ⟨more', hmore', hquiet'⟩ := h'.log
  refine ⟨h'.sameRules.trans h.sameRules, more ++ more', ?_, ?_⟩
  · rw [hmore', hmore, List.append_assoc]
  · intro e he
    rcases List.mem_append.mp he with he | he
    · exact hquiet e he
    · exact hquiet' e he

end ApexConstants

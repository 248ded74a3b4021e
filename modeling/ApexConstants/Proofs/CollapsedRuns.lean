import ApexConstants.Proofs.UsableNames
import Mathlib.Data.List.SplitBy

namespace ApexConstants.Apex

/-- Within a run nothing more comes out. -/
theorem collapseRuns_inRun {run : List Char} (h : ∀ c ∈ run, isWordChar c = false)
    (rest : List Char) : collapseRuns true (run ++ rest) = collapseRuns true rest := by
  induction run with
  | nil => rfl
  | cons c run ih =>
    obtain ⟨hc, hrun⟩ := List.forall_mem_cons.mp h
    simpa [collapseRuns, hc] using ih hrun

/-- A run is one underscore, however long it is and whatever it consists of. -/
theorem collapseRuns_run {run : List Char} (hne : run ≠ [])
    (h : ∀ c ∈ run, isWordChar c = false) (rest : List Char) :
    collapseRuns false (run ++ rest) = '_' :: collapseRuns true rest := by
  cases run with
  | nil => exact absurd rfl hne
  | cons c run =>
    obtain ⟨hc, hrun⟩ := List.forall_mem_cons.mp h
    simpa [collapseRuns, hc] using collapseRuns_inRun hrun rest

theorem collapseRuns_wordChars {word : List Char} (hne : word ≠ [])
    (h : ∀ c ∈ word, isWordChar c = true) (inRun : Bool) (rest : List Char) :
    collapseRuns inRun (word ++ rest) = word ++ collapseRuns false rest := by
  induction word generalizing inRun with
  | nil => exact absurd rfl hne
  | cons c word ih =>
    obtain ⟨hc, hword⟩ := List.forall_mem_cons.mp h
    cases word with
    | nil => simp [collapseRuns, hc]
    | cons d word => simpa [collapseRuns, hc] using ih (by simp) hword false

/-- A text of word characters has no runs. -/
theorem collapseRuns_of_word {word : List Char} (h : ∀ c ∈ word, isWordChar c = true) :
    collapseRuns false word = word := by
  cases word with
  | nil => rfl
  | cons c word =>
    have hwhole := collapseRuns_wordChars (List.cons_ne_nil c word) h false []
    rwa [List.append_nil, collapseRuns, List.append_nil] at hwhole

/-- What stands in front of a run and behind it does not see which run it is. -/
theorem collapseRuns_replace {run other : List Char} (hne : run ≠ []) (hother : other ≠ [])
    (hrun : ∀ c ∈ run, isWordChar c = false) (hothers : ∀ c ∈ other, isWordChar c = false)
    (inRun : Bool) (front back : List Char) :
    collapseRuns inRun (front ++ (run ++ back)) = collapseRuns inRun (front ++ (other ++ back)) := by
  induction front generalizing inRun with
  | nil =>
    rw [List.nil_append, List.nil_append]
    cases inRun with
    | true => rw [collapseRuns_inRun hrun, collapseRuns_inRun hothers]
    | false => rw [collapseRuns_run hne hrun, collapseRuns_run hother hothers]
  | cons c front ih => simp only [List.cons_append, collapseRuns, ih]

/-- The longest stretches of word characters and of other characters, in their order. -/
def stretches (cs : List Char) : List (List Char) :=
  cs.splitBy fun c d => isWordChar c == isWordChar d

/-- A text with one underscore in the place of each longest stretch of other characters than those
of a word. -/
def underscored (cs : List Char) : List Char :=
  (stretches cs).flatMap fun stretch => if stretch.all isWordChar then stretch else ['_']

/-- Words and runs by turns. `afterRun` says whether a run stands right before them. -/
inductive ByTurns : Bool → List (List Char) → Prop
  | nil {afterRun} : ByTurns afterRun []
  | word {afterRun word rest} : word ≠ [] → (∀ c ∈ word, isWordChar c = true) →
      ByTurns false rest → ByTurns afterRun (word :: rest)
  | run {run rest} : run ≠ [] → (∀ c ∈ run, isWordChar c = false) →
      ByTurns true rest → ByTurns false (run :: rest)

/-- Characters of one class, as neighbours are in a stretch. -/
theorem isWordChar_of_isChain {c d : Char} {stretch : List Char}
    (h : (c :: stretch).IsChain fun c d => (isWordChar c == isWordChar d) = true)
    (hd : d ∈ c :: stretch) : isWordChar d = isWordChar c := by
  induction stretch generalizing c with
  | nil => rw [List.mem_singleton.mp hd]
  | cons e stretch ih =>
    obtain ⟨hce, hrest⟩ := List.isChain_cons_cons.mp h
    rcases List.mem_cons.mp hd with rfl | hd
    · rfl
    · rw [ih hrest hd, beq_iff_eq.mp hce]

/-- Longest stretches come by turns: where one ends and the next begins, the class changes. -/
theorem byTurns_of_isChain {ss : List (List Char)} {afterRun : Bool} (hne : [] ∉ ss)
    (hclass : ∀ s ∈ ss, s.IsChain fun c d => (isWordChar c == isWordChar d) = true)
    (hturn : ss.IsChain fun s t =>
      ∃ hs ht, (isWordChar (s.getLast hs) == isWordChar (t.head ht)) = false)
    (hfirst : afterRun = true → ∀ s ∈ ss.head?, ∀ c ∈ s.head?, isWordChar c = true) :
    ByTurns afterRun ss := by
  induction ss generalizing afterRun with
  | nil => exact .nil
  | cons s rest ih =>
    cases s with
    | nil => exact absurd List.mem_cons_self hne
    | cons c cs =>
      have hsame : ∀ d ∈ c :: cs, isWordChar d = isWordChar c := fun d =>
        isWordChar_of_isChain (hclass _ List.mem_cons_self)
      have hrest : [] ∉ rest := fun hm => hne (List.mem_cons_of_mem _ hm)
      have hclasses := fun t ht => hclass t (List.mem_cons_of_mem _ ht)
      obtain ⟨hnext, hturns⟩ := List.isChain_cons.mp hturn
      cases hc : isWordChar c with
      | true =>
        refine .word (by simp) (fun d hd => (hsame d hd).trans hc) ?_
        exact ih hrest hclasses hturns (fun h => by cases h)
      | false =>
        cases afterRun with
        | true =>
          have hword := hfirst rfl (c :: cs) rfl c rfl
          rw [hc] at hword
          cases hword
        | false =>
          refine .run (by simp) (fun d hd => (hsame d hd).trans hc) ?_
          refine ih hrest hclasses hturns fun _ t ht d hd => ?_
          obtain ⟨hs, hne, hdiffers⟩ := hnext t ht
          rw [hsame _ (List.getLast_mem hs), hc] at hdiffers
          rw [← List.head_of_mem_head? hd]
          simpa using hdiffers

theorem byTurns_stretches (cs : List Char) : ByTurns false (stretches cs) := by
  have hturns := List.isChain_getLast_head_splitBy (fun c d => isWordChar c == isWordChar d) cs
  refine byTurns_of_isChain (List.nil_notMem_splitBy _ cs) ?_ hturns (fun h => by cases h)
  exact fun s hs => List.isChain_of_mem_splitBy hs

theorem ByTurns.collapseRuns_flatten {afterRun : Bool} {ss : List (List Char)}
    (h : ByTurns afterRun ss) : collapseRuns afterRun ss.flatten =
      ss.flatMap fun stretch => if stretch.all isWordChar then stretch else ['_'] := by
  induction h with
  | nil => rfl
  | word hne hword _ ih =>
    rw [List.flatten_cons, collapseRuns_wordChars hne hword, ih, List.flatMap_cons,
      if_pos (List.all_eq_true.mpr hword)]
  | @run run rest hne hrun _ ih =>
    have hother : ¬ run.all isWordChar = true := by
      obtain ⟨c, cs, rfl⟩ := List.exists_cons_of_ne_nil hne
      simp [hrun c List.mem_cons_self]
    rw [List.flatten_cons, collapseRuns_run hne hrun, ih, List.flatMap_cons, if_neg hother]
    rfl

/-- Going through a text character by character replaces its longest runs. -/
theorem collapseRuns_eq (cs : List Char) : collapseRuns false cs = underscored cs := by
  have h := (byTurns_stretches cs).collapseRuns_flatten
  rwa [stretches, List.flatten_splitBy] at h

end ApexConstants.Apex

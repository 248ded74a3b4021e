import ApexConstants.Options.Load
import Mathlib.Data.List.Induction
import Mathlib.Data.List.Nodup

namespace ApexConstants

def OptionName.spelledBy (o : OptionName) (key : Json.Key) : Bool :=
  key.text?.any fun key => snakeCase key == o.text

/-- The option of a kind that a key spells. -/
def GenerationKind.optionSpelled? (kind : GenerationKind) (key : Json.Key) : Option OptionName :=
  key.text?.bind fun key => kind.optionNamed? (snakeCase key)

def lastSpelled? (o : OptionName) : Json.Members → Option Json
  | [] => none
  | (key, value) :: rest =>
    (lastSpelled? o rest).or (if o.spelledBy key then some value else none)

theorem lastSpelled?_append (o : OptionName) (xs ys : Json.Members) :
    lastSpelled? o (xs ++ ys) = (lastSpelled? o ys).or (lastSpelled? o xs) := by
  induction xs with
  | nil => simp [lastSpelled?]
  | cons m xs ih => simp [lastSpelled?, ih, Option.or_assoc]

def OptionName.all : List OptionName :=
  GenerationKind.picklists.options ++ [.outputClassName, .includeInactive, .ignoreTestClass]

theorem OptionName.mem_all (o : OptionName) : o ∈ all := by
  cases o <;> decide

theorem OptionName.text_injective : Function.Injective OptionName.text := by
  have hn : (all.map OptionName.text).Nodup := by decide
  exact fun a b h => List.inj_on_of_nodup_map hn a.mem_all b.mem_all h

theorem GenerationKind.text_of_optionNamed? {kind : GenerationKind} {name : String}
    {o : OptionName} (h : kind.optionNamed? name = some o) : o.text = name := by
  simpa using List.find?_some h

theorem GenerationKind.spelledBy_of_optionSpelled? {kind : GenerationKind} {key : Json.Key}
    {o : OptionName} (h : kind.optionSpelled? key = some o) : o.spelledBy key = true := by
  cases key with
  | text s =>
    have htext : o.text = snakeCase s := text_of_optionNamed? h
    simp [OptionName.spelledBy, Json.Key.text?, htext]
  | broken codes lone => cases h
  | foreign form => cases h

theorem GenerationKind.mem_of_optionSpelled? {kind : GenerationKind} {key : Json.Key}
    {o : OptionName} (h : kind.optionSpelled? key = some o) : o ∈ kind.options := by
  obtain ⟨s, -, hnamed⟩ := Option.bind_eq_some_iff.mp h
  exact List.mem_of_find?_eq_some hnamed

/-- A key spells one option at most. -/
theorem OptionName.eq_of_spelledBy {o p : OptionName} {key : Json.Key} (h : o.spelledBy key = true)
    (h' : p.spelledBy key = true) : o = p := by
  cases key with
  | text s =>
    simp only [spelledBy, Json.Key.text?, Option.any_some, beq_iff_eq] at h h'
    exact text_injective (h.symm.trans h')
  | broken codes lone => cases h
  | foreign form => cases h

theorem GenerationKind.ofText?_text (kind : GenerationKind) : ofText? kind.text = some kind := by
  cases kind <;> rfl

theorem GenerationKind.text_injective : Function.Injective GenerationKind.text := by
  intro a b h
  have hsame := congrArg ofText? h
  rw [ofText?_text, ofText?_text] at hsame
  exact Option.some.inj hsame

theorem assign_concat (kind : GenerationKind) (members : Json.Members) (key : Json.Key)
    (value : Json) :
    assign kind (members ++ [(key, value)]) =
      match kind.optionSpelled? key with
      | some name => (insertOption name value (assign kind members).1, (assign kind members).2)
      | none => ((assign kind members).1, (assign kind members).2 ++ [key]) := by
  rw [assign, List.foldl_append]
  rfl

theorem lookup_insertOption (name o : OptionName) (value : Json)
    (given : List (OptionName × Json)) :
    (insertOption name value given).lookup o =
      if o = name then some value else given.lookup o := by
  induction given with
  | nil =>
    by_cases h : o = name
    · simp [insertOption, h]
    · have hb : (o == name) = false := by simpa using h
      simp [insertOption, List.lookup_cons, hb, h]
  | cons g rest ih =>
    obtain ⟨n, v⟩ := g
    by_cases hn : n = name
    · subst hn
      by_cases h : o = n
      · simp [insertOption, h]
      · have hb : (o == n) = false := by simpa using h
        simp [insertOption, List.lookup_cons, hb, h]
    · by_cases h : o = n
      · subst h
        simp [insertOption, hn]
      · have hb : (o == n) = false := by simpa using h
        simp [insertOption, hn, List.lookup_cons, hb, ih]

theorem mem_insertOption {name n : OptionName} {value : Json} {given : List (OptionName × Json)}
    (h : n ∈ (insertOption name value given).map Prod.fst) :
    n = name ∨ n ∈ given.map Prod.fst := by
  induction given with
  | nil => simpa [insertOption] using h
  | cons g rest ih =>
    obtain ⟨m, v⟩ := g
    by_cases hm : m = name
    · simpa [insertOption, hm] using h
    · simp only [insertOption, hm, if_false, List.map_cons, List.mem_cons] at h ⊢
      rcases h with rfl | h
      · exact Or.inr (Or.inl rfl)
      · rcases ih h with rfl | h
        · exact Or.inl rfl
        · exact Or.inr (Or.inr h)

theorem nodup_insertOption {name : OptionName} {value : Json} {given : List (OptionName × Json)}
    (h : (given.map Prod.fst).Nodup) :
    ((insertOption name value given).map Prod.fst).Nodup := by
  induction given with
  | nil => simp [insertOption]
  | cons g rest ih =>
    obtain ⟨m, v⟩ := g
    simp only [List.map_cons, List.nodup_cons] at h
    by_cases hm : m = name
    · subst hm
      simpa [insertOption] using h
    · simp only [insertOption, hm, if_false, List.map_cons, List.nodup_cons]
      refine ⟨?_, ih h.2⟩
      intro hin
      rcases mem_insertOption hin with he | hin
      · exact hm he
      · exact h.1 hin

theorem nodup_assign (kind : GenerationKind) (members : Json.Members) :
    ((assign kind members).1.map Prod.fst).Nodup := by
  induction members using List.reverseRecOn with
  | nil => simp [assign]
  | append_singleton members m ih =>
    rw [assign_concat]
    split
    · exact nodup_insertOption ih
    · exact ih

/-- Where no key is unknown, an option gets the value under the last key that spells it. -/
theorem lookup_assign {kind : GenerationKind} {members : Json.Members}
    (h : (assign kind members).2 = []) (o : OptionName) :
    (assign kind members).1.lookup o = lastSpelled? o members := by
  induction members using List.reverseRecOn with
  | nil => rfl
  | append_singleton members m ih =>
    obtain ⟨key, value⟩ := m
    rw [assign_concat] at h ⊢
    rw [lastSpelled?_append]
    cases hkey : kind.optionSpelled? key with
    | none => simp [hkey] at h
    | some p =>
      simp only [hkey] at h
      have hspelled := GenerationKind.spelledBy_of_optionSpelled? hkey
      by_cases hp : o = p
      · subst hp
        simp [lookup_insertOption, lastSpelled?, hspelled]
      · have hs : o.spelledBy key = false :=
          Bool.eq_false_iff.mpr fun ho => hp (OptionName.eq_of_spelledBy ho hspelled)
        simp [lookup_insertOption, hp, lastSpelled?, hs, ih h]

/-- Both lookups have something to fall back on. -/
theorem optionsFor_eq (kind : GenerationKind) (members : Json.Members) :
    optionsFor kind members = match (Json.get? members configSection).getD (.obj members) with
      | .obj holder =>
        match (Json.get? holder kind.text).getD (.obj []) with
        | .obj given => .ok given
        | _ => .error (.badKindSection kind)
      | _ => .error .badSection := by
  unfold optionsFor
  rcases Json.get? members configSection with _ | found
  · dsimp only [Option.getD_none]
    rcases Json.get? members kind.text with _ | own
    · rfl
    · cases own <;> rfl
  · cases found
    case obj holder =>
      dsimp only [Option.getD_some]
      rcases Json.get? holder kind.text with _ | own
      · rfl
      · cases own <;> rfl
    all_goals rfl

theorem lookup_eq_none_of_notMem {given : List (OptionName × Json)} {o : OptionName}
    (h : o ∉ given.map Prod.fst) : given.lookup o = none := by
  rw [List.lookup_eq_none_iff]
  intro g hg
  have hne : o ≠ g.1 := by
    rintro rfl
    exact h (List.mem_map_of_mem hg)
  simpa using hne

theorem value_foldl_set {given : List (OptionName × Json)} (hn : (given.map Prod.fst).Nodup)
    (start : Options) (o : OptionName) :
    (given.foldl (fun so (name, value) => so.set name value) start).value o =
      (given.lookup o).getD (start.value o) := by
  induction given generalizing start with
  | nil => rfl
  | cons g rest ih =>
    obtain ⟨n, v⟩ := g
    simp only [List.map_cons, List.nodup_cons] at hn
    rw [List.foldl_cons, ih hn.2]
    by_cases h : o = n
    · subst h
      simp [lookup_eq_none_of_notMem hn.1, Options.set]
    · have hb : (o == n) = false := by simpa using h
      simp [List.lookup_cons, hb, Options.set, h]

theorem lookup_settled (given : List (OptionName × Json)) (o : OptionName) :
    (given.map fun (name, value) => (name, settled name value)).lookup o =
      (given.lookup o).map (settled o) := by
  induction given with
  | nil => rfl
  | cons g rest ih =>
    obtain ⟨n, v⟩ := g
    by_cases h : o = n
    · subst h
      simp
    · have hb : (o == n) = false := by simpa using h
      simp [List.lookup_cons, hb, ih]

theorem optionsOf_ok {kind : GenerationKind} {members : Json.Members} {options : Options}
    (h : optionsOf kind members = .ok options) :
    (assign kind members).2 = [] ∧
      options = .ofGiven kind
        ((assign kind members).1.map fun (name, value) => (name, settled name value)) := by
  unfold optionsOf at h
  dsimp only at h
  split at h
  · cases h
  · split at h
    · cases h
    · rename_i hunknown
      have hu : (assign kind members).2 = [] := by simpa using hunknown
      split at h
      · cases h
      · cases h
        exact ⟨hu, rfl⟩

/-- The value of an option is the one under the last key that spells it, else its default. -/
theorem value_of_optionsOf {kind : GenerationKind} {members : Json.Members}
    {options : Options} (h : optionsOf kind members = .ok options) (o : OptionName) :
    options.value o = ((lastSpelled? o members).map (settled o)).getD o.default := by
  obtain ⟨hu, rfl⟩ := optionsOf_ok h
  have hn : (((assign kind members).1.map fun (name, value) =>
      (name, settled name value)).map Prod.fst).Nodup := by
    simpa [List.map_map, Function.comp_def] using nodup_assign kind members
  rw [Options.ofGiven, value_foldl_set hn, lookup_settled, lookup_assign hu]
  rfl

theorem Options.kind_ofGiven (kind : GenerationKind) (given : List (OptionName × Json)) :
    (Options.ofGiven kind given).kind = kind := by
  have hall : ∀ o : Options,
      (given.foldl (fun o member => o.set member.1 member.2) o).kind = o.kind := by
    induction given with
    | nil => exact fun _ => rfl
    | cons member given ih => exact fun o => ih (o.set member.1 member.2)
  exact hall (.standard kind)

theorem kind_of_optionsOf {kind : GenerationKind} {members : Json.Members} {o : Options}
    (h : optionsOf kind members = .ok o) : o.kind = kind := by
  rw [(optionsOf_ok h).2, Options.kind_ofGiven]

end ApexConstants

import ApexConstants.Metadata
import ApexConstants.Proofs.Outcomes

namespace ApexConstants

variable {α : Type} {wanted : Json} {taken : List Json} {names : α → List (Except ValueFault Json)}
  {records kept : List α}

/-- Whether a record answers to a name that is wanted, or all are wanted. -/
def isWanted (wanted : Json) (names : α → List (Except ValueFault Json)) (r : α) : Bool :=
  match includedNames wanted with
  | .ok (some taken) => (answersTo taken (names r)).toOption.getD false
  | _ => true

theorem filterTaken_ok (h : filterTaken taken names records = .ok kept) :
    kept = records.filter fun r => (answersTo taken (names r)).toOption.getD false := by
  induction records generalizing kept with
  | nil =>
    cases h
    rfl
  | cons r records ih =>
    obtain ⟨keep, hkeep, h⟩ := bind_eq_ok.mp h
    obtain ⟨rest, hrest, h⟩ := bind_eq_ok.mp h
    cases h
    rw [ih hrest, List.filter_cons, hkeep]
    rfl

theorem filterIncluded_ok (h : filterIncluded wanted names records = .ok kept) :
    kept = records.filter (isWanted wanted names) := by
  obtain ⟨found, hfound, h⟩ := bind_eq_ok.mp h
  cases found with
  | none =>
    cases h
    have hall : ∀ r ∈ records, isWanted wanted names r = true := by
      intro r _
      rw [isWanted, hfound]
    rw [List.filter_eq_self.mpr hall]
  | some taken =>
    have hsame : isWanted wanted names =
        fun r => (answersTo taken (names r)).toOption.getD false := by
      funext r
      rw [isWanted, hfound]
    rw [hsame]
    exact filterTaken_ok h

def Json.ofText? : Option String → Json
  | some s => .str s
  | none => .null

/-- Whether one of some names is in a list, all being in an empty one. -/
def namesAny (list : List String) (names : List (Option String)) : Bool :=
  list.isEmpty || names.any fun name => name.any list.contains

theorem answersTo_texts (list : List String) (names : List (Option String)) :
    answersTo (list.map .str) (names.map fun name => .ok (Json.ofText? name)) =
      .ok (names.any fun name => name.any list.contains) := by
  have hmatches : ∀ name : Option String,
      (list.map Json.str).any (Json.ofText? name).matchesKey = name.any list.contains := by
    intro name
    rw [List.any_map]
    cases name with
    | none => simp [Json.ofText?, Json.matchesKey, Json.comparable]
    | some s =>
      rw [Option.any_some, List.contains_eq_any_beq]
      rfl
  have hsimple : ∀ name : Option String, (Json.ofText? name).isSimple = true := by
    rintro (_ | _) <;> rfl
  induction names with
  | nil => rfl
  | cons name names ih =>
    rw [List.map_cons, answersTo, hsimple, hmatches, ih, List.any_cons]
    cases name.any list.contains <;> rfl

/-- A list of texts tells of every record whether it is included. -/
theorem filterIncluded_texts (list : List String) (names : α → List (Option String))
    (records : List α) :
    filterIncluded (.arr (list.map .str))
        (fun r => (names r).map fun name => .ok (Json.ofText? name)) records =
      .ok (records.filter fun r => namesAny list (names r)) := by
  cases list with
  | nil =>
    have hall : ∀ r ∈ records, namesAny [] (names r) = true := fun _ _ => rfl
    rw [List.filter_eq_self.mpr hall]
    rfl
  | cons first rest =>
    have hnames : includedNames (.arr ((first :: rest).map .str)) =
        .ok (some ((first :: rest).map .str)) := by
      simp [includedNames, Json.isTruthy, Json.isSimple]
    have hfilter : ∀ rs : List α, filterTaken ((first :: rest).map .str)
        (fun r => (names r).map fun name => .ok (Json.ofText? name)) rs =
          .ok (rs.filter fun r => namesAny (first :: rest) (names r)) := by
      intro rs
      induction rs with
      | nil => rfl
      | cons r rs ih =>
        rw [filterTaken, answersTo_texts, ih, List.filter_cons]
        rfl
    rw [filterIncluded, hnames]
    exact hfilter records

end ApexConstants

import ApexConstants.Proofs.ReadValues
import ApexConstants.Proofs.ReportedFaults

namespace ApexConstants

def GenerationKind.Knows (kind : GenerationKind) (key : Json.Key) : Prop :=
  ∃ o ∈ kind.options, o.spelledBy key = true

section
variable {kind : GenerationKind} {key : Json.Key} {members : Json.Members}

theorem optionSpelled?_eq_none_iff : kind.optionSpelled? key = none ↔ ¬ kind.Knows key := by
  constructor
  · intro hnone hknown
    obtain ⟨o, ho, hspelled⟩ := hknown
    cases key with
    | text s =>
      have hname : kind.optionNamed? (snakeCase s) = none := hnone
      rw [GenerationKind.optionNamed?, List.find?_eq_none] at hname
      have hother := hname o ho
      rw [OptionName.spelledBy, Json.Key.text?, Option.any_some, Bool.beq_comm] at hspelled
      exact hother hspelled
    | broken codes lone => cases hspelled
    | foreign form => cases hspelled
  · intro hunknown
    cases hspelled : kind.optionSpelled? key with
    | none => rfl
    | some o => exact absurd ⟨o, GenerationKind.mem_of_optionSpelled? hspelled,
        GenerationKind.spelledBy_of_optionSpelled? hspelled⟩ hunknown

/-- The keys that are found to name no option are those, in their order. -/
theorem unknown_assign (kind : GenerationKind) (members : Json.Members) :
    (assign kind members).2 =
      (members.map Prod.fst).filter fun key => (kind.optionSpelled? key).isNone := by
  induction members using List.reverseRecOn with
  | nil => rfl
  | append_singleton members m ih =>
    obtain ⟨other, value⟩ := m
    rw [assign_concat, List.map_append, List.filter_append, ← ih]
    cases hother : kind.optionSpelled? other with
    | none => simp [hother]
    | some o => simp [hother]

theorem mem_unknown_iff :
    key ∈ (assign kind members).2 ↔ key ∈ members.map Prod.fst ∧ ¬ kind.Knows key := by
  rw [unknown_assign, List.mem_filter, Option.isNone_iff_eq_none, optionSpelled?_eq_none_iff]

/-- Two keys that are texts are the same if they have the same characters, halves of pairs among
them. -/
theorem codes_injective {a b : Json.Key} (ha : a.isForeign = false) (hb : b.isForeign = false)
    (h : a.codes = b.codes) : a = b := by
  have hplain : ∀ (s : String) (codes : List Nat), codes.any Json.isHalf = true →
      s.toList.map Char.toNat ≠ codes := by
    intro s codes hlone hsame
    obtain ⟨n, hn, hhalf⟩ := List.any_eq_true.mp (hsame ▸ hlone)
    obtain ⟨c, -, rfl⟩ := List.mem_map.mp hn
    simp only [Json.isHalf, Bool.and_eq_true, decide_eq_true_eq] at hhalf
    rcases c.valid with hlow | hhigh
    · exact absurd hlow (Nat.not_lt.mpr hhalf.1)
    · exact absurd hhigh.1 (Nat.not_lt.mpr (Nat.le_of_lt_succ hhalf.2))
  cases a with
  | text s =>
    cases b with
    | text t =>
      have hchars : s.toList = t.toList :=
        List.map_injective_iff.mpr (fun _ _ hsame => Char.toNat_inj.mp hsame) h
      rw [String.toList_inj.mp hchars]
    | broken codes lone => exact absurd h (hplain s codes lone)
    | foreign form => cases hb
  | broken codes lone =>
    cases b with
    | text t => exact absurd h.symm (hplain t codes lone)
    | broken others lone => cases h; rfl
    | foreign form => cases hb
  | foreign form => cases ha

theorem precedes_iff {a b : Json.Key} : a.precedes b = true ↔ ¬ b.codes < a.codes := by
  simp [Json.Key.precedes]

/-- The unknown keys in the order in which they are reported. -/
theorem pairwise_sorted_unknown (kind : GenerationKind) (hnodup : (members.map Prod.fst).Nodup)
    (htexts : ∀ key ∈ members.map Prod.fst, key.isForeign = false) :
    ((assign kind members).2.mergeSort Json.Key.precedes).Pairwise fun a b => a.codes < b.codes := by
  have hdistinct : (assign kind members).2.Nodup := by
    rw [unknown_assign]
    exact hnodup.filter _
  have hsorted : ((assign kind members).2.mergeSort Json.Key.precedes).Pairwise
      fun a b => Json.Key.precedes a b = true := by
    apply List.pairwise_mergeSort
    · intro a b c hab hbc
      rw [precedes_iff] at hab hbc ⊢
      exact List.not_lt.mpr (List.le_trans (List.not_lt.mp hab) (List.not_lt.mp hbc))
    · intro a b
      rw [Bool.or_eq_true, precedes_iff, precedes_iff]
      exact (List.le_total a.codes b.codes).imp List.not_lt.mpr List.not_lt.mpr
  have htext : ∀ key ∈ (assign kind members).2.mergeSort Json.Key.precedes,
      key.isForeign = false := fun key hkey =>
    htexts key (mem_unknown_iff.mp (List.mem_mergeSort.mp hkey)).1
  have hboth := hsorted.and (List.nodup_mergeSort.mpr hdistinct)
  refine hboth.imp_of_mem fun {a b} ha hb hab => ?_
  by_contra hnot
  have hsame := List.le_antisymm (List.not_lt.mp (precedes_iff.mp hab.1)) (List.not_lt.mp hnot)
  exact hab.2 (codes_injective (htext a ha) (htext b hb) hsame)

theorem optionsOf_of_foreign (h : ∃ key ∈ members.map Prod.fst, key.isForeign = true) :
    optionsOf kind members = .error (.value .wrongType) := by
  have hany : (members.any fun m => m.1.isForeign) = true := by
    obtain ⟨key, hkey, hforeign⟩ := h
    obtain ⟨m, hm, rfl⟩ := List.mem_map.mp hkey
    exact List.any_eq_true.mpr ⟨m, hm, hforeign⟩
  unfold optionsOf
  rw [if_pos hany]
  rfl

/-- Among texts, the keys that name no option come first, then the flags. -/
theorem optionsOf_of_texts (h : ∀ key ∈ members.map Prod.fst, key.isForeign = false) :
    optionsOf kind members =
      if (assign kind members).2 ≠ [] then
        .error (.config (.unknownOptions kind
          ((assign kind members).2.mergeSort Json.Key.precedes)))
      else match (assign kind members).1.find? fun (name, value) => name.isFlag && !value.isBool with
        | some (name, value) => .error (notFlag name value)
        | none => .ok (.ofGiven kind
            ((assign kind members).1.map fun (name, value) => (name, settled name value))) := by
  have hany : ¬ (members.any fun m => m.1.isForeign) = true := by
    intro hsome
    obtain ⟨m, hm, hforeign⟩ := List.any_eq_true.mp hsome
    rw [h m.1 (List.mem_map_of_mem hm)] at hforeign
    cases hforeign
  unfold optionsOf
  rw [if_neg hany]
  dsimp only
  by_cases hunknown : (assign kind members).2 = []
  · rw [if_neg (by simp [hunknown]), if_neg (by simp [hunknown])]
    rfl
  · rw [if_pos (by simpa using hunknown), if_pos hunknown]
    rfl

def FlagsFit (kind : GenerationKind) (members : Json.Members) : Prop :=
  ∀ o ∈ kind.options, o.isFlag = true → ∀ v, lastSpelled? o members = some v → v.isBool = true

theorem mem_options_of_assign {o : OptionName} {v : Json} (h : (o, v) ∈ (assign kind members).1) :
    o ∈ kind.options := by
  have hkeys : o ∈ (assign kind members).1.map Prod.fst := List.mem_map_of_mem h
  clear h
  induction members using List.reverseRecOn with
  | nil => simp [assign] at hkeys
  | append_singleton members m ih =>
    rw [assign_concat] at hkeys
    split at hkeys
    · rename_i named hnamed
      rcases mem_insertOption hkeys with rfl | hbefore
      · exact GenerationKind.mem_of_optionSpelled? hnamed
      · exact ih hbefore
    · exact ih hkeys

theorem mem_assign_iff (h : (assign kind members).2 = []) {o : OptionName} {v : Json} :
    (o, v) ∈ (assign kind members).1 ↔ lastSpelled? o members = some v := by
  rw [← lookup_assign h, List.lookup_eq_some_iff]
  have hnodup := nodup_assign kind members
  constructor
  · intro hmem
    obtain ⟨before, after, hsplit⟩ := List.append_of_mem hmem
    refine ⟨before, after, hsplit, fun p hp => ?_⟩
    rw [hsplit, List.map_append, List.map_cons, List.nodup_append] at hnodup
    have hne := hnodup.2.2 p.1 (List.mem_map_of_mem hp) o List.mem_cons_self
    simpa using hne.symm
  · intro hsplit
    obtain ⟨before, after, hsplit, -⟩ := hsplit
    rw [hsplit]
    simp

theorem text_of_knows (h : kind.Knows key) : key.isForeign = false := by
  obtain ⟨o, -, hspelled⟩ := h
  cases key with
  | text s => rfl
  | broken codes lone => rfl
  | foreign form => cases hspelled

theorem unknown_eq_nil_iff :
    (assign kind members).2 = [] ↔ ∀ key ∈ members.map Prod.fst, kind.Knows key := by
  constructor
  · intro hnil key hkey
    by_contra hnot
    have hmem := mem_unknown_iff.mpr ⟨hkey, hnot⟩
    simp [hnil] at hmem
  · intro hknown
    apply List.eq_nil_iff_forall_not_mem.mpr
    intro key hkey
    obtain ⟨hmem, hnot⟩ := mem_unknown_iff.mp hkey
    exact hnot (hknown key hmem)

theorem optionsOf_succeeds_iff : (∃ options, optionsOf kind members = .ok options) ↔
    (∀ key ∈ members.map Prod.fst, kind.Knows key) ∧ FlagsFit kind members := by
  by_cases htexts : ∀ key ∈ members.map Prod.fst, key.isForeign = false
  · rw [optionsOf_of_texts htexts, ← unknown_eq_nil_iff]
    by_cases hunknown : (assign kind members).2 = []
    · rw [if_neg (not_not.mpr hunknown), and_iff_right hunknown]
      split
      · rename_i o v hflag
        have hmem := List.mem_of_find?_eq_some hflag
        have hbad := List.find?_some hflag
        simp only [Bool.and_eq_true, Bool.not_eq_true'] at hbad
        refine iff_of_false (by simp) fun hfit => ?_
        have hbool := hfit o (mem_options_of_assign hmem) hbad.1 v
          ((mem_assign_iff hunknown).mp hmem)
        simp [hbad.2] at hbool
      · rename_i hflag
        refine iff_of_true ⟨_, rfl⟩ fun o _ ho v hv => ?_
        have hgood := List.find?_eq_none.mp hflag (o, v) ((mem_assign_iff hunknown).mpr hv)
        simpa [ho] using hgood
    · rw [if_pos hunknown]
      exact iff_of_false (by simp) fun h => hunknown h.1
  · have hforeign : ∃ key ∈ members.map Prod.fst, key.isForeign = true := by
      simpa using htexts
    rw [optionsOf_of_foreign hforeign]
    refine iff_of_false (by simp) fun h => ?_
    exact htexts fun key hkey => text_of_knows (h.1 key hkey)

/-- What else than the configuration can be at fault. -/
theorem optionsOf_strays {fault : Failure} (h : optionsOf kind members = .error fault) :
    (∃ cause, fault = .config cause) ∨
      (fault = .value .wrongType ∧ ∃ m ∈ members, m.1.isForeign = true) ∨
      ∃ cause, fault = .value (.ofPrint cause) ∧ ∃ m ∈ members, m.2.printFault? = some cause := by
  by_cases htexts : ∀ key ∈ members.map Prod.fst, key.isForeign = false
  · rw [optionsOf_of_texts htexts] at h
    split at h
    · cases h
      exact .inl ⟨_, rfl⟩
    · split at h
      · rename_i o v hflag
        obtain ⟨key, hmem⟩ := mem_of_assign (List.mem_of_find?_eq_some hflag)
        cases h
        unfold notFlag
        split
        · rename_i cause hcause
          exact .inr (.inr ⟨cause, rfl, (key, v), hmem, hcause⟩)
        · exact .inl ⟨_, rfl⟩
      · cases h
  · obtain ⟨key, hkey, hforeign⟩ : ∃ key ∈ members.map Prod.fst, key.isForeign = true := by
      simpa using htexts
    rw [optionsOf_of_foreign ⟨key, hkey, hforeign⟩] at h
    cases h
    obtain ⟨m, hm, rfl⟩ := List.mem_map.mp hkey
    exact .inr (.inl ⟨rfl, m, hm, hforeign⟩)

end

theorem lastSpelled?_eq_none {o : OptionName} {members : Json.Members}
    (h : ∀ key ∈ members.map Prod.fst, o.spelledBy key = false) :
    lastSpelled? o members = none := by
  induction members with
  | nil => rfl
  | cons m rest ih =>
    obtain ⟨key, value⟩ := m
    simp only [List.map_cons, List.forall_mem_cons] at h
    simp [lastSpelled?, ih h.2, h.1]

/-- Only a text of names to include is not taken as it is. -/
theorem settled_of_not_text {name : OptionName} {v : Json}
    (h : name = .included → ∀ s, v ≠ .str s) : settled name v = v := by
  unfold settled
  split
  · exact absurd rfl (h rfl _)
  · rfl

/-- Names that are trimmed and have no commas are read back from their text with commas between. -/
theorem splitNames_intercalate {names : List String}
    (h : ∀ name ∈ names, Text.trim name = name ∧ name ≠ "" ∧ ',' ∉ name.toList) :
    splitNames (String.intercalate "," names) = names := by
  cases hempty : names.isEmpty with
  | true =>
    rw [List.isEmpty_iff.mp hempty]
    decide
  | false =>
    have hcommas : ∀ cs ∈ names.map String.toList, ',' ∉ cs := by
      intro cs hcs
      obtain ⟨name, hname, rfl⟩ := List.mem_map.mp hcs
      exact (h name hname).2.2
    have hpieces : Text.pieces ',' (String.intercalate "," names) = names := by
      have hsplit := List.splitOn_intercalate ',' hcommas (by simpa using hempty)
      have hcomma : ",".toList = [','] := rfl
      rw [Text.pieces, String.toList_intercalate, hcomma, hsplit, List.map_map]
      simp [Function.comp_def]
    have htrimmed : names.map Text.trim = names := by
      conv_rhs => rw [← List.map_id names]
      exact List.map_congr_left fun name hname => (h name hname).1
    rw [splitNames, hpieces, htrimmed, List.filter_eq_self]
    intro name hname
    simpa using (h name hname).2.1

inductive FileValue (t : Tree) : Option Path → Option Json → Prop
  | noFile : FileValue t none none
  | file {file : Path} {content : ByteArray} {text : String} {value : Json}
      (extension : Text.lower file.extension = ".json") (read : t.read file = .ok content)
      (decoded : String.fromUTF8? content = some text) (parsed : Json.read text = .ok value) :
      FileValue t (some file) (some value)

/-- The members for a kind: those in the section for options, or in the object itself where that has
no such section. -/
inductive HasSection (kind : GenerationKind) : Option Json → Json.Members → Prop
  | noFile : HasSection kind none []
  | file {members holder given : Json.Members}
      (options : (Json.get? members configSection).getD (.obj members) = .obj holder)
      (own : (Json.get? holder kind.text).getD (.obj []) = .obj given) :
      HasSection kind (some (.obj members)) given

section
variable {t : Tree} {file : Option Path} {value : Option Json} {kind : GenerationKind}
  {members given overrides : Json.Members}

theorem optionsFor_eq_ok_iff :
    optionsFor kind members = .ok given ↔ HasSection kind (some (.obj members)) given := by
  rw [optionsFor_eq]
  constructor
  · intro h
    split at h
    · rename_i holder hoptions
      split at h
      · rename_i own hown
        cases h
        exact .file hoptions hown
      · cases h
    · cases h
  · intro h
    cases h with
    | file hoptions hown =>
      rw [hoptions]
      dsimp only
      rw [hown]

/-- The members for a kind are as they stand in a text. -/
theorem formed_of_section (hvalue : FileValue t file value) (h : HasSection kind value given) :
    Json.Formed Json.depthLimit (.obj given) := by
  cases h with
  | noFile => exact Json.formedMembers_nil.obj
  | file hoptions hown =>
    cases hvalue with
    | file _ _ _ hparsed =>
      have hformed := Json.formed_read hparsed
      have hholder := hoptions ▸ hformed.getD configSection hformed
      exact hown ▸ hholder.getD kind.text Json.formedMembers_nil.obj

/-- The members that count: those of the file with the overrides that have a value. -/
def withOverrides (given overrides : Json.Members) : Json.Members :=
  Json.insertAll given (givenOverrides overrides)

/-- A key that counts: one in the file, or one of an override with a value. -/
def Offered (given overrides : Json.Members) (key : Json.Key) : Prop :=
  key ∈ given.map Prod.fst ∨ ∃ v, (key, v) ∈ overrides ∧ v ≠ .null

theorem mem_givenOverrides_iff {m : Json.Key × Json} :
    m ∈ givenOverrides overrides ↔ m ∈ overrides ∧ m.2 ≠ .null := by
  obtain ⟨key, v⟩ := m
  rw [givenOverrides, List.mem_filter]
  cases v <;> simp

theorem mem_withOverrides_iff {key : Json.Key} :
    key ∈ (withOverrides given overrides).map Prod.fst ↔ Offered given overrides key := by
  have hmore : key ∈ (givenOverrides overrides).map Prod.fst ↔
      ∃ v, (key, v) ∈ overrides ∧ v ≠ .null := by
    simp only [List.mem_map, mem_givenOverrides_iff, Prod.exists, exists_and_right, exists_eq_right]
  rw [withOverrides, Json.mem_keys_insertAll, hmore, Offered]

/-- A kind that has no name like this is unknown. -/
theorem loadOptions_of_no_kind {kindName : String} (h : ∀ kind, kindName ≠ GenerationKind.text kind) :
    loadOptions t kindName file overrides = .error (.config (.unknownKind kindName)) := by
  have hnone : GenerationKind.ofText? kindName = none := by
    rw [GenerationKind.ofText?, List.find?_eq_none]
    intro kind _ hnamed
    exact h kind (eq_of_beq hnamed).symm
  rw [loadOptions, hnone]
  rfl

theorem loadOptions_of_section (hvalue : FileValue t file value)
    (hsection : HasSection kind value given) : loadOptions t kind.text file overrides =
      optionsOf kind (withOverrides given overrides) := by
  cases hvalue with
  | noFile =>
    cases hsection
    rw [loadOptions, GenerationKind.ofText?_text]
    rfl
  | file hextension hread hdecoded hparsed =>
    cases hsection with
    | @file members _ _ hoptions hown =>
      have hfor := optionsFor_eq_ok_iff.mpr (.file hoptions hown)
      rw [loadOptions_eq, Tree.readConfig_eq hextension hread, objectIn, hdecoded]
      dsimp only
      rw [hparsed]
      dsimp only [Except.bind]
      rw [hfor]
      rfl

theorem loadOptions_of_no_section (overrides : Json.Members)
    (hvalue : FileValue t file value) (hnone : ∀ given, ¬ HasSection kind value given) :
    ∃ cause, loadOptions t kind.text file overrides = .error (.config cause) := by
  cases hvalue with
  | noFile => exact absurd .noFile (hnone [])
  | @file file content text value hextension hread hdecoded hparsed =>
    rw [loadOptions_eq, Tree.readConfig_eq hextension hread, objectIn, hdecoded]
    dsimp only
    rw [hparsed]
    cases value
    case obj members =>
      cases hfor : optionsFor kind members with
      | ok given => exact absurd (optionsFor_eq_ok_iff.mp hfor) (hnone given)
      | error cause =>
        refine ⟨cause, ?_⟩
        simp [Except.bind, hfor, Except.mapError]
    all_goals exact ⟨_, rfl⟩

end

/-- What is read into options from members that count. -/
structure ReadFrom (given overrides : Json.Members) (o : Options) : Prop where
  /-- An option that no key names has its default. -/
  default : ∀ name : OptionName,
    (∀ key, Offered given overrides key → name.spelledBy key = false) →
      o.value name = name.default
  /-- A text of names to include stands for what is not empty between its commas, trimmed. -/
  names : ∀ s, lastSpelled? .included (withOverrides given overrides) = some (.str s) →
    o.value .included =
      .arr ((((Text.pieces ',' s).map Text.trim).filter fun name => !name.isEmpty).map .str)
  /-- Names that are trimmed, not empty and without commas are read back from one text. -/
  joined : ∀ included : List String,
    (∀ name ∈ included, Text.trim name = name ∧ name ≠ "" ∧ ',' ∉ name.toList) →
    lastSpelled? .included (withOverrides given overrides) =
      some (.str (String.intercalate "," included)) →
    o.value .included = .arr (included.map .str)
  /-- Any other value is the one that is assigned last. -/
  taken : ∀ name v, lastSpelled? name (withOverrides given overrides) = some v →
    (name = .included → ∀ s, v ≠ .str s) → o.value name = v

/-- How options of a kind are loaded when this is the value in the file. -/
structure LoadsValid (t : Tree) (kindName : String) (file : Option Path) (value : Option Json)
    (overrides : Json.Members) : Prop where
  /-- They are exactly when the kind is known, the file has the form for it, every key that counts
  names an option, and the flags among these are true or false. -/
  succeeds : (∃ o, loadOptions t kindName file overrides = .ok o) ↔
    ∃ kind given, kindName = GenerationKind.text kind ∧ HasSection kind value given ∧
      (∀ key, Offered given overrides key → kind.Knows key) ∧
      FlagsFit kind (withOverrides given overrides)
  /-- Whatever goes wrong blames the configuration, if the overrides with a value have texts for
  keys and values that can be printed. -/
  blames : Json.Presentable (givenOverrides overrides) →
    BlamesConfig (loadOptions t kindName file overrides)
  /-- Nothing else goes wrong but that an override has a key that is no text or a value that cannot
  be printed. -/
  strays : ∀ fault, loadOptions t kindName file overrides = .error fault →
    (∃ cause, fault = .config cause) ∨
      (fault = .value .wrongType ∧ ∃ m ∈ givenOverrides overrides, m.1.isForeign = true) ∨
      ∃ cause, fault = .value (.ofPrint cause) ∧
        ∃ m ∈ givenOverrides overrides, m.2.printFault? = some cause
  /-- Where keys name no option, all of these are reported, in the order of their characters,
  whatever the flags are. -/
  unknown : ∀ kind given, kindName = GenerationKind.text kind → HasSection kind value given →
    (∀ key, Offered given overrides key → key.isForeign = false) →
    (∃ key, Offered given overrides key ∧ ¬ kind.Knows key) →
    ∃ keys, loadOptions t kindName file overrides = .error (.config (.unknownOptions kind keys)) ∧
      keys.Pairwise (fun a b => a.codes < b.codes) ∧
      ∀ key, key ∈ keys ↔ Offered given overrides key ∧ ¬ kind.Knows key
  loaded : ∀ o, loadOptions t kindName file overrides = .ok o →
    ∃ given, kindName = o.kind.text ∧ HasSection o.kind value given ∧ ReadFrom given overrides o

section
variable {t : Tree} {kindName : String} {kind : GenerationKind} {file : Option Path}
  {value : Option Json} {members given overrides : Json.Members} {o : Options}

/-- Without a kind and a form of the file for it, nothing is loaded. -/
theorem LoadsValid.of_failed {cause : ConfigFault}
    (hfails : loadOptions t kindName file overrides = .error (.config cause))
    (hnone : ∀ kind given, kindName = GenerationKind.text kind → ¬ HasSection kind value given) :
    LoadsValid t kindName file value overrides := by
  refine ⟨?_, ?_, ?_, ?_, ?_⟩
  · rw [hfails]
    refine iff_of_false (by simp) fun h => ?_
    obtain ⟨kind, given, hkind, hsection, -⟩ := h
    exact hnone kind given hkind hsection
  · intro _
    rw [hfails]
    exact blamesConfig_config cause
  · intro fault hfault
    cases hfails.symm.trans hfault
    exact .inl ⟨cause, rfl⟩
  · intro kind given hkind hsection
    exact absurd hsection (hnone kind given hkind)
  · intro o hok
    rw [hfails] at hok
    cases hok

theorem readFrom_of_optionsOf (h : optionsOf kind (withOverrides given overrides) = .ok o) :
    ReadFrom given overrides o := by
  have hvalue := value_of_optionsOf h
  have hnames : ∀ s, lastSpelled? .included (withOverrides given overrides) = some (.str s) →
      o.value .included = .arr ((splitNames s).map .str) := by
    intro s hs
    rw [hvalue, hs]
    rfl
  refine ⟨?_, hnames, ?_, ?_⟩
  · intro name hunnamed
    have hnone : lastSpelled? name (withOverrides given overrides) = none := by
      apply lastSpelled?_eq_none
      intro key hkey
      exact hunnamed key (mem_withOverrides_iff.mp hkey)
    rw [hvalue, hnone]
    rfl
  · intro included hplain hlast
    rw [hnames _ hlast, splitNames_intercalate hplain]
  · intro name v hlast htext
    rw [hvalue, hlast, Option.map_some, Option.getD_some]
    exact settled_of_not_text htext

theorem loadOptions_succeeds_iff (hvalue : FileValue t file value)
    (hsection : HasSection kind value given) :
    (∃ o, loadOptions t kind.text file overrides = .ok o) ↔
      (∀ key, Offered given overrides key → kind.Knows key) ∧
        FlagsFit kind (withOverrides given overrides) := by
  simp only [loadOptions_of_section hvalue hsection, optionsOf_succeeds_iff, mem_withOverrides_iff]

/-- Keys that name no option are all reported, and nothing else is. -/
theorem loadOptions_of_unknown (hvalue : FileValue t file value)
    (hsection : HasSection kind value given)
    (htexts : ∀ key, Offered given overrides key → key.isForeign = false)
    (hunknown : ∃ key, Offered given overrides key ∧ ¬ kind.Knows key) :
    ∃ keys, loadOptions t kind.text file overrides = .error (.config (.unknownOptions kind keys)) ∧
      keys.Pairwise (fun a b => a.codes < b.codes) ∧
      ∀ key, key ∈ keys ↔ Offered given overrides key ∧ ¬ kind.Knows key := by
  have hmem : ∀ key, key ∈ (assign kind (withOverrides given overrides)).2 ↔
      Offered given overrides key ∧ ¬ kind.Knows key := by
    intro key
    rw [mem_unknown_iff, mem_withOverrides_iff]
  have hsome : (assign kind (withOverrides given overrides)).2 ≠ [] := by
    obtain ⟨key, hkey⟩ := hunknown
    exact List.ne_nil_of_mem ((hmem key).mpr hkey)
  have hdistinct : ((withOverrides given overrides).map Prod.fst).Nodup :=
    Json.nodup_insertAll (formed_of_section hvalue hsection).inside.keys
  have hkeys : ∀ key ∈ (withOverrides given overrides).map Prod.fst, key.isForeign = false :=
    fun key hkey => htexts key (mem_withOverrides_iff.mp hkey)
  refine ⟨_, ?_, pairwise_sorted_unknown kind hdistinct hkeys, fun key => ?_⟩
  · rw [loadOptions_of_section hvalue hsection, optionsOf_of_texts hkeys, if_pos hsome]
  · exact List.mem_mergeSort.trans (hmem key)

/-- Only overrides can be at fault where the configuration is not. -/
theorem loadOptions_strays (hvalue : FileValue t file value) (hsection : HasSection kind value given)
    {fault : Failure} (h : loadOptions t kind.text file overrides = .error fault) :
    (∃ cause, fault = .config cause) ∨
      (fault = .value .wrongType ∧ ∃ m ∈ givenOverrides overrides, m.1.isForeign = true) ∨
      ∃ cause, fault = .value (.ofPrint cause) ∧
        ∃ m ∈ givenOverrides overrides, m.2.printFault? = some cause := by
  have hfile := (formed_of_section hvalue hsection).inside.presentable
  rw [loadOptions_of_section hvalue hsection] at h
  rcases optionsOf_strays h with hcause | ⟨hfault, m, hm, hforeign⟩ | ⟨cause, hfault, m, hm, hcause⟩
  · exact .inl hcause
  · refine .inr (.inl ⟨hfault, m, ?_, hforeign⟩)
    refine (Json.mem_insertAll hm).resolve_left fun hold => ?_
    simp [(hfile m hold).1] at hforeign
  · refine .inr (.inr ⟨cause, hfault, m, ?_, hcause⟩)
    refine (Json.mem_insertAll hm).resolve_left fun hold => ?_
    simp [(hfile m hold).2] at hcause

/-- Where there is a form of the file for the kind, its members and the overrides decide. -/
theorem loadsValid_of_section (hvalue : FileValue t file value)
    (hsection : HasSection kind value given) : LoadsValid t kind.text file value overrides := by
  refine ⟨⟨?_, ?_⟩, ?_, fun _ => loadOptions_strays hvalue hsection, ?_, ?_⟩
  · intro hok
    exact ⟨kind, given, rfl, hsection, (loadOptions_succeeds_iff hvalue hsection).mp hok⟩
  · intro h
    obtain ⟨other, members, hkind, hother, hfit⟩ := h
    cases GenerationKind.text_injective hkind
    exact (loadOptions_succeeds_iff hvalue hother).mpr hfit
  · intro hoverrides
    rw [loadOptions_of_section hvalue hsection]
    have hfile := (formed_of_section hvalue hsection).inside.presentable
    exact blamesConfig_optionsOf (hfile.insertAll hoverrides)
  · intro other members hkind hother htexts hunknown
    cases GenerationKind.text_injective hkind
    exact loadOptions_of_unknown hvalue hother htexts hunknown
  · intro o hok
    rw [loadOptions_of_section hvalue hsection] at hok
    have hkind := kind_of_optionsOf hok
    rw [hkind]
    exact ⟨given, rfl, hsection, readFrom_of_optionsOf hok⟩

end

/-- What a kind, the value in a file and overrides have to be for options to be loaded, what is said
where they are not, and what the options are where they are. -/
theorem options_loaded {t : Tree} {file : Option Path} {value : Option Json}
    (hvalue : FileValue t file value) (kindName : String) (overrides : Json.Members) :
    LoadsValid t kindName file value overrides := by
  by_cases hkind : ∃ kind, kindName = GenerationKind.text kind
  · obtain ⟨kind, rfl⟩ := hkind
    by_cases hsection : ∃ given, HasSection kind value given
    · obtain ⟨given, hsection⟩ := hsection
      exact loadsValid_of_section hvalue hsection
    · have hnone : ∀ given, ¬ HasSection kind value given := not_exists.mp hsection
      obtain ⟨cause, hfails⟩ := loadOptions_of_no_section overrides hvalue hnone
      refine .of_failed hfails fun other given hother => ?_
      cases GenerationKind.text_injective hother
      exact hnone given
  · have hnone := not_exists.mp hkind
    exact .of_failed (loadOptions_of_no_kind hnone) fun kind _ hkind _ => hnone kind hkind

def bothSpellingsMembers : Json.Members :=
  [("picklist_prefix", .str "A"), ("picklistPrefix", .str "B")]

theorem fileValue_bothSpellings :
    FileValue bothSpellingsTree (some ⟨.here, ["package.json"]⟩)
      (some (.obj [("picklists", .obj bothSpellingsMembers)])) := by
  have hread : bothSpellingsTree.read ⟨.here, ["package.json"]⟩ = .ok bothSpellings.toUTF8 := by
    refine Tree.read_eq_ok_iff.mpr ⟨["work", "package.json"], ?_, rfl⟩
    simp only [Tree.locate]
    rfl
  exact .file (by decide) hread (fromUTF8?_toByteArray bothSpellings) rfl

theorem hasSection_bothSpellings {given : Json.Members} :
    HasSection .picklists (some (.obj [("picklists", .obj bothSpellingsMembers)])) given ↔
      given = bothSpellingsMembers := by
  constructor
  · intro h
    cases h with
    | file hoptions hown =>
      cases hoptions
      cases hown
      rfl
  · intro h
    subst h
    exact .file rfl rfl

/-- Names to include that come as one text beside a file with other options. -/
theorem options_loaded_names :
    FileValue bothSpellingsTree (some ⟨.here, ["package.json"]⟩)
      (some (.obj [("picklists", .obj bothSpellingsMembers)])) ∧
    ∃ o, loadOptions bothSpellingsTree "picklists" (some ⟨.here, ["package.json"]⟩)
        [("include", .str "Account,Case")] = .ok o ∧
      o.value .included = .arr [.str "Account", .str "Case"] ∧ o.value .outputDir = .null := by
  have hvalid := options_loaded fileValue_bothSpellings "picklists" [("include", .str "Account,Case")]
  have hkeys : ∀ key, Offered bothSpellingsMembers [("include", .str "Account,Case")] key →
      key = "picklist_prefix" ∨ key = "picklistPrefix" ∨ key = "include" := by
    intro key hkey
    rw [← mem_withOverrides_iff] at hkey
    simpa [withOverrides, givenOverrides, Json.insertAll, Json.insert, bothSpellingsMembers]
      using hkey
  have hknown : ∀ key, Offered bothSpellingsMembers [("include", .str "Account,Case")] key →
      GenerationKind.picklists.Knows key := by
    intro key hkey
    rcases hkeys key hkey with rfl | rfl | rfl
    · exact ⟨.picklistPrefix, by decide, rfl⟩
    · exact ⟨.picklistPrefix, by decide, rfl⟩
    · exact ⟨.included, by decide, rfl⟩
  have hflags : FlagsFit .picklists
      (withOverrides bothSpellingsMembers [("include", .str "Account,Case")]) := by
    intro o _ hflag v hv
    have hnone : lastSpelled? o
        (withOverrides bothSpellingsMembers [("include", .str "Account,Case")]) = none := by
      apply lastSpelled?_eq_none
      intro key hkey
      rcases hkeys key (mem_withOverrides_iff.mp hkey) with rfl | rfl | rfl
      all_goals cases o <;> first | rfl | cases hflag
    rw [hnone] at hv
    cases hv
  obtain ⟨o, hok⟩ := hvalid.succeeds.mpr
    ⟨.picklists, _, rfl, hasSection_bothSpellings.mpr rfl, hknown, hflags⟩
  obtain ⟨given, hkind, hsection, hread⟩ := hvalid.loaded o hok
  have hpicklists : GenerationKind.picklists = o.kind := GenerationKind.text_injective hkind
  rw [← hpicklists] at hsection
  cases hasSection_bothSpellings.mp hsection
  refine ⟨fileValue_bothSpellings, o, hok, ?_, ?_⟩
  · exact hread.joined ["Account", "Case"] (by decide) rfl
  · refine hread.default .outputDir fun key hkey => ?_
    rcases hkeys key hkey with rfl | rfl | rfl <;> rfl

def nestedLists : Nat → Json
  | 0 => .arr []
  | n + 1 => .arr [nestedLists n]

theorem printFaultWithin_nestedLists (room : Nat) :
    Json.printFaultWithin room (nestedLists room) = some .tooDeep := by
  induction room with
  | zero => rfl
  | succ room ih => rw [nestedLists, Json.printFaultWithin, Json.printFaultItems, ih]; rfl

theorem printFault?_of_long {n : Int} (h : Nat.pow 10 Json.digitLimit ≤ n.natAbs) :
    (Json.int n).printFault? = some .tooManyDigits := by
  change Json.printFaultWithin (992 + 1) (.int n) = _
  rw [Json.printFaultWithin, if_pos h]

theorem loadOptions_of_wrong_flag {v : Json} {cause : Json.PrintFault} (hgiven : v ≠ .null)
    (hflag : v.isBool = false) (hprint : v.printFault? = some cause) :
    loadOptions (Tree.empty []) "picklists" none [(.text "ignore_picklists", v)] =
      .error (.value (.ofPrint cause)) := by
  have hoverrides : givenOverrides [(.text "ignore_picklists", v)] =
      [(.text "ignore_picklists", v)] := by
    cases v <;> first | exact absurd rfl hgiven | rfl
  have hassign : assign .picklists [(.text "ignore_picklists", v)] =
      ([(.ignorePicklists, v)], []) := rfl
  have htexts : ∀ key ∈ List.map Prod.fst ([(.text "ignore_picklists", v)] : Json.Members),
      key.isForeign = false := by simp [Json.Key.isForeign]
  have hfind : ([(.ignorePicklists, v)] : List (OptionName × Json)).find? (fun (name, value) =>
      name.isFlag && !value.isBool) = some (.ignorePicklists, v) := by
    have hbad : (OptionName.ignorePicklists.isFlag && !v.isBool) = true := by
      rw [hflag]
      rfl
    rw [List.find?_singleton]
    exact if_pos hbad
  change optionsOf .picklists (Json.insertAll [] (givenOverrides _)) = _
  rw [hoverrides]
  change optionsOf .picklists [(.text "ignore_picklists", v)] = _
  rw [optionsOf_of_texts htexts, hassign]
  simp [hfind, notFlag, hprint]

theorem loadOptions_of_long_flag {n : Int} (h : Nat.pow 10 Json.digitLimit ≤ n.natAbs) :
    loadOptions (Tree.empty []) "picklists" none [(.text "ignore_picklists", .int n)] =
      .error (.value .numberTooLong) :=
  loadOptions_of_wrong_flag (by simp) rfl (printFault?_of_long h)

theorem loadOptions_of_deep_flag : loadOptions (Tree.empty []) "picklists" none
    [(.text "ignore_picklists", nestedLists Json.printLimit)] = .error (.value .tooDeep) := by
  have hlists : ∀ room, nestedLists room ≠ .null ∧ (nestedLists room).isBool = false := by
    intro room
    cases room <;> exact ⟨by simp [nestedLists], rfl⟩
  obtain ⟨hgiven, hflag⟩ := hlists Json.printLimit
  exact loadOptions_of_wrong_flag hgiven hflag (printFaultWithin_nestedLists _)

/-- An override with a number for a key, one with a whole number that has too many digits, and one
with lists that are nested too deep stop the loading of options without blaming the configuration.
-/
theorem overrides_not_blamed :
    loadOptions (Tree.empty []) "picklists" none [(.foreign "5", .bool true)] =
        .error (.value .wrongType) ∧
      loadOptions (Tree.empty []) "picklists" none
        [(.text "ignore_picklists", .int (Int.ofNat (Nat.pow 10 5000)))] =
        .error (.value .numberTooLong) ∧
      loadOptions (Tree.empty []) "picklists" none
        [(.text "ignore_picklists", nestedLists Json.printLimit)] = .error (.value .tooDeep) ∧
      ∀ fault, ¬ BlamesConfig (.error (.value fault) : Except Failure Options) := by
  have hpower : ∀ digits count, digits ≤ count →
      Nat.pow 10 digits ≤ (Int.ofNat (Nat.pow 10 count)).natAbs :=
    fun _ _ hdigits => Nat.pow_le_pow_right (by decide) hdigits
  have hlong := hpower Json.digitLimit 5000 (by decide)
  exact ⟨rfl, loadOptions_of_long_flag hlong, loadOptions_of_deep_flag, not_blamesConfig_value⟩

end ApexConstants

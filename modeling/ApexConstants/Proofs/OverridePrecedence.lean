import ApexConstants.Proofs.LoadedOptions

namespace ApexConstants

def behindKey (key : Json.Key) : Json.Members → Json.Members
  | [] => []
  | (k, _) :: rest => if k == key then rest else behindKey key rest

theorem fromUTF8?_toByteArray (s : String) : String.fromUTF8? s.toByteArray = some s := by
  simp [String.fromUTF8?, String.fromUTF8, s.isValidUTF8]

theorem Tree.readConfig_of_find {t : Tree} {file : Path} {text : String}
    {members : Json.Members} (hfind : t.find file = .ok (.file text.toUTF8))
    (hextension : Text.lower file.extension = ".json")
    (hjson : Json.read text = .ok (.obj members)) : t.readConfig file = .ok members := by
  have hexists : t.exists? file = .ok true := by
    rw [Tree.exists?, Tree.probe, hfind]
    rfl
  have hread : t.read file = .ok text.toUTF8 := by
    rw [Tree.read, hfind]
    rfl
  simp [Tree.readConfig, hexists, hextension, hread, fromUTF8?_toByteArray, hjson, bind,
    Except.bind, Except.mapError, pure, Except.pure]

variable {o : OptionName} {key other : Json.Key} {value : Json}

/-- A key that spells another option does not count, wherever it goes. -/
theorem lastSpelled?_insert_other (h : o.spelledBy other = false) (members : Json.Members) :
    lastSpelled? o (Json.insert other value members) = lastSpelled? o members := by
  induction members with
  | nil => simp [Json.insert, lastSpelled?, h]
  | cons m rest ih =>
    obtain ⟨k, w⟩ := m
    by_cases hk : k = other
    · subst hk
      simp [Json.insert, lastSpelled?, h]
    · simp [Json.insert, hk, lastSpelled?, ih]

theorem lastSpelled?_insertAll_other {more : Json.Members}
    (h : more.filter (fun m => o.spelledBy m.1) = []) (members : Json.Members) :
    lastSpelled? o (Json.insertAll members more) = lastSpelled? o members := by
  induction more generalizing members with
  | nil => rfl
  | cons m more ih =>
    have hm : o.spelledBy m.1 = false := by
      simpa using List.filter_eq_nil_iff.mp h m List.mem_cons_self
    have hmore : more.filter (fun m => o.spelledBy m.1) = [] := by simpa [hm] using h
    rw [Json.insertAll, List.foldl_cons]
    exact (ih hmore _).trans (lastSpelled?_insert_other hm members)

theorem behindKey_insert_other (h : o.spelledBy other = false) (hne : other ≠ key)
    (members : Json.Members) :
    lastSpelled? o (behindKey key (Json.insert other value members)) =
      lastSpelled? o (behindKey key members) := by
  induction members with
  | nil => simp [Json.insert, behindKey, hne]
  | cons m rest ih =>
    obtain ⟨k, w⟩ := m
    by_cases hk : k = other
    · subst hk
      simp [Json.insert, behindKey, hne]
    · by_cases hkey : k = key
      · subst hkey
        simp [Json.insert, hk, behindKey, lastSpelled?_insert_other h]
      · simp [Json.insert, hk, behindKey, hkey, ih]

/-- An override takes the place of its own key, and only what stands behind that place can still
outdo it. -/
theorem lastSpelled?_insert_key (h : o.spelledBy key = true) (members : Json.Members) :
    lastSpelled? o (Json.insert key value members) =
      some ((lastSpelled? o (behindKey key members)).getD value) := by
  induction members with
  | nil => simp [Json.insert, lastSpelled?, behindKey, h]
  | cons m rest ih =>
    obtain ⟨k, w⟩ := m
    by_cases hk : k = key
    · subst hk
      cases hr : lastSpelled? o rest <;> simp [Json.insert, lastSpelled?, behindKey, h, hr]
    · simp [Json.insert, hk, lastSpelled?, behindKey, ih]

theorem lastSpelled?_insertAll {more : Json.Members}
    (h : more.filter (fun m => o.spelledBy m.1) = [(key, value)])
    (members : Json.Members) :
    lastSpelled? o (Json.insertAll members more) =
      some ((lastSpelled? o (behindKey key members)).getD value) := by
  induction more generalizing members with
  | nil => simp at h
  | cons m more ih =>
    obtain ⟨k, w⟩ := m
    have hkey : o.spelledBy key = true := by
      have hin : (key, value) ∈ ((k, w) :: more).filter (fun m => o.spelledBy m.1) := by simp [h]
      exact (List.mem_filter.mp hin).2
    rw [Json.insertAll, List.foldl_cons]
    by_cases hk : o.spelledBy k = true
    · simp only [List.filter_cons, hk, if_true, List.cons.injEq, Prod.mk.injEq] at h
      obtain ⟨⟨rfl, rfl⟩, hmore⟩ := h
      exact (lastSpelled?_insertAll_other hmore _).trans (lastSpelled?_insert_key hkey members)
    · simp only [Bool.not_eq_true] at hk
      have hmore : more.filter (fun m => o.spelledBy m.1) = [(key, value)] := by
        simpa [hk] using h
      have hne : k ≠ key := by
        rintro rfl
        simp [hk] at hkey
      refine (ih hmore _).trans ?_
      rw [behindKey_insert_other hk hne]

theorem loadOptions_eq_ok_iff {t : Tree} {kind : GenerationKind} {file : Path}
    {overrides : Json.Members} {options : Options} :
    loadOptions t kind.text (some file) overrides = .ok options ↔
      ∃ members given, t.readConfig file = .ok members ∧ optionsFor kind members = .ok given ∧
        optionsOf kind (Json.insertAll given (givenOverrides overrides)) = .ok options := by
  simp only [loadOptions, GenerationKind.ofText?_text]
  cases hread : t.readConfig file with
  | error fault => simp [bind, Except.bind]
  | ok members =>
    cases hfor : optionsFor kind members with
    | error fault => simp [hfor, bind, Except.bind, Except.mapError]
    | ok given =>
      cases hof : optionsOf kind (Json.insertAll given (givenOverrides overrides)) with
      | error fault => simp [hfor, hof, bind, Except.bind, Except.mapError]
      | ok found => simp [hfor, hof, bind, Except.bind, Except.mapError]

/-- The value of an option that is overridden once is the override, unless the file spells the
option once more behind the override's own key. Exactly then the file can win. -/
theorem override_wins_iff {t : Tree} {kind : GenerationKind} {file : Path}
    {overrides : Json.Members} {options : Options} {o : OptionName} {key : Json.Key}
    {value : Json} (hload : loadOptions t kind.text (some file) overrides = .ok options)
    (honce : (givenOverrides overrides).filter (fun m => o.spelledBy m.1) = [(key, value)]) :
    ∃ members given, t.readConfig file = .ok members ∧ optionsFor kind members = .ok given ∧
      options.value o = settled o ((lastSpelled? o (behindKey key given)).getD value) ∧
      (options.value o = settled o value ↔
        ∀ late, lastSpelled? o (behindKey key given) = some late →
          settled o late = settled o value) := by
  obtain ⟨members, given, hread, hfor, hof⟩ := loadOptions_eq_ok_iff.mp hload
  have hvalue : options.value o =
      settled o ((lastSpelled? o (behindKey key given)).getD value) := by
    rw [value_of_optionsOf hof, lastSpelled?_insertAll honce]
    rfl
  refine ⟨members, given, hread, hfor, hvalue, ?_⟩
  rw [hvalue]
  cases hlate : lastSpelled? o (behindKey key given) with
  | none => simp
  | some late => simp

def bothSpellings : String :=
  "\x7b\"picklists\": \x7b\"picklist_prefix\": \"A\", \"picklistPrefix\": \"B\"\x7d\x7d"

def bothSpellingsTree : Tree :=
  (Tree.empty ["work"]).put ["work", "package.json"] (.file bothSpellings.toUTF8)

theorem readConfig_bothSpellings :
    bothSpellingsTree.readConfig ⟨.here, ["package.json"]⟩ = .ok [("picklists",
      .obj [("picklist_prefix", .str "A"), ("picklistPrefix", .str "B")])] := by
  have hlocate : bothSpellingsTree.locate ⟨.here, ["package.json"]⟩ =
      .ok ["work", "package.json"] := by
    simp only [Tree.locate]
    rfl
  have hfind : bothSpellingsTree.find ⟨.here, ["package.json"]⟩ =
      .ok (.file bothSpellings.toUTF8) := by
    rw [Tree.find, hlocate]
    rfl
  exact Tree.readConfig_of_find hfind (by decide) rfl

/-- The override that comes under the second spelling stands last and wins. -/
theorem override_wins_second : ∃ options,
    loadOptions bothSpellingsTree GenerationKind.picklists.text (some ⟨.here, ["package.json"]⟩)
      [("picklistPrefix", .str "X")] = .ok options ∧
    (givenOverrides [("picklistPrefix", .str "X")]).filter
      (fun m => OptionName.picklistPrefix.spelledBy m.1) = [(.text "picklistPrefix", .str "X")] ∧
    ∃ members given,
      bothSpellingsTree.readConfig ⟨.here, ["package.json"]⟩ = .ok members ∧
      optionsFor .picklists members = .ok given ∧
      options.value .picklistPrefix = settled .picklistPrefix
        ((lastSpelled? .picklistPrefix (behindKey "picklistPrefix" given)).getD (.str "X")) ∧
      (options.value .picklistPrefix = settled .picklistPrefix (.str "X") ↔
        ∀ late, lastSpelled? .picklistPrefix (behindKey "picklistPrefix" given) = some late →
          settled .picklistPrefix late = settled .picklistPrefix (.str "X")) := by
  obtain ⟨options, hload⟩ : ∃ options, loadOptions bothSpellingsTree
      GenerationKind.picklists.text (some ⟨.here, ["package.json"]⟩)
      [("picklistPrefix", .str "X")] = .ok options :=
    ⟨_, loadOptions_eq_ok_iff.mpr ⟨_, _, readConfig_bothSpellings, rfl, rfl⟩⟩
  exact ⟨options, hload, rfl, override_wins_iff hload rfl⟩

/-- The override that comes under the first spelling keeps its place there and loses. -/
theorem override_loses_first : ∃ options,
    loadOptions bothSpellingsTree GenerationKind.picklists.text (some ⟨.here, ["package.json"]⟩)
      [("picklist_prefix", .str "X")] = .ok options ∧
    (givenOverrides [("picklist_prefix", .str "X")]).filter
      (fun m => OptionName.picklistPrefix.spelledBy m.1) = [(.text "picklist_prefix", .str "X")] ∧
    options.value .picklistPrefix ≠ settled .picklistPrefix (.str "X") := by
  refine ⟨_, loadOptions_eq_ok_iff.mpr ⟨_, _, readConfig_bothSpellings, rfl, rfl⟩, rfl, ?_⟩
  intro h
  have hx : "B" = "X" := Json.str.inj h
  exact absurd hx (by decide)

end ApexConstants

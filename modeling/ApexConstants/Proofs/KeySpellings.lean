import ApexConstants.Proofs.JoinedLines
import ApexConstants.Proofs.LoadedOptions
import ApexConstants.Proofs.UsableNames

namespace ApexConstants
open Text (isAscii)

section
variable {c : Char}

theorem isAlpha_of_isLower (h : c.isLower = true) : c.isAlpha = true := by
  unfold Char.isAlpha
  rw [h, Bool.or_true]

theorem isAscii_of_isSmall (h : isSmall c = true) : isAscii c = true := by
  apply Apex.isWordChar_ascii
  simp only [isSmall, Bool.or_eq_true] at h
  rcases h with hletter | hdigit
  · exact Apex.isWordChar_of_isAlpha (isAlpha_of_isLower hletter)
  · simp [Apex.isWordChar, Char.isAlphanum, hdigit]

theorem isSmall_of_isLower (h : c.isLower = true) : isSmall c = true := by
  rw [isSmall, h, Bool.true_or]

/-- Small letters and digits stay as they are in lower case. -/
theorem case_of_small (h : isSmall c = true) :
    c.isUpper = false ∧ c.toLower = c ∧ (c.isLower = true → c.toUpper.isUpper = true) := by
  have hall : ∀ c, isAscii c = true → isSmall c = true →
      c.isUpper = false ∧ c.toLower = c ∧ (c.isLower = true → c.toUpper.isUpper = true) :=
    Text.forall_ascii (by decide)
  exact hall c (isAscii_of_isSmall h) h

theorem small_not_upper (h : isSmall c = true) : c.isUpper = false := (case_of_small h).1

theorem toLower_small (h : isSmall c = true) : c.toLower = c := (case_of_small h).2.1

theorem isUpper_toUpper (h : c.isLower = true) : c.toUpper.isUpper = true :=
  (case_of_small (isSmall_of_isLower h)).2.2 h

end

section
variable {a b : Char} {cs rest : List Char}

theorem splitCapitals_cons (h : ∀ b ∈ cs.head?, b.isUpper = false) :
    splitCapitals (a :: cs) = a :: splitCapitals cs := by
  cases cs with
  | nil => rfl
  | cons b cs =>
    have hb : b.isUpper = false := h b rfl
    rw [splitCapitals, hb, Bool.and_false, if_neg Bool.false_ne_true]

/-- A text with no capital behind its first character stays as it is. -/
theorem splitCapitals_of_no_capital (h : ∀ c ∈ cs, c.isUpper = false) :
    splitCapitals (a :: cs) = a :: cs := by
  induction cs generalizing a with
  | nil => rfl
  | cons b cs ih =>
    obtain ⟨hb, hcs⟩ := List.forall_mem_cons.mp h
    rw [splitCapitals_cons (by simpa using hb), ih hcs]

/-- A word that ends small is parted from the capital behind it. -/
theorem splitCapitals_word (hsmall : ∀ c ∈ cs, isSmall c = true)
    (hends : isSmall a = true ∨ cs ≠ []) (hb : b.isUpper = true) :
    splitCapitals (a :: cs ++ b :: rest) = a :: cs ++ '_' :: splitCapitals (b :: rest) := by
  induction cs generalizing a with
  | nil =>
    have ha : isSmall a = true := hends.resolve_right (not_not_intro rfl)
    rw [List.cons_append, List.nil_append, splitCapitals, ha, hb, Bool.and_true, if_pos rfl]
    rfl
  | cons c cs ih =>
    obtain ⟨hc, hcs⟩ := List.forall_mem_cons.mp hsmall
    have hnext : splitCapitals (a :: (c :: cs ++ b :: rest)) =
        a :: splitCapitals (c :: cs ++ b :: rest) :=
      splitCapitals_cons (by simpa using small_not_upper hc)
    rw [List.cons_append, hnext, ih hcs (.inl hc)]
    rfl

end

def isSegment : List Char → Bool
  | [] => false
  | c :: rest => c.isLower && rest.all isSmall

def capitalized : List Char → List Char
  | [] => []
  | c :: rest => c.toUpper :: rest

/-- A name in small letters, of segments with underscores between them. One of a single letter can
only stand first or last. -/
structure SnakeName where
  segments : List (List Char)
  nonempty : segments ≠ []
  segment : ∀ s ∈ segments, isSegment s = true
  inner : ∀ s ∈ segments.tail.dropLast, 2 ≤ s.length

section
variable {s : List Char} {segments : List (List Char)}

theorem isSegment_iff : isSegment s = true ↔
    ∃ c rest, s = c :: rest ∧ c.isLower = true ∧ ∀ d ∈ rest, isSmall d = true := by
  cases s with
  | nil => simp [isSegment]
  | cons c rest => simp [isSegment]

theorem small_of_isSegment (h : isSegment s = true) : ∀ c ∈ s, isSmall c = true := by
  obtain ⟨c, rest, rfl, hc, hrest⟩ := isSegment_iff.mp h
  exact List.forall_mem_cons.mpr ⟨isSmall_of_isLower hc, hrest⟩

theorem isAscii_capitalized (h : isSegment s = true) : ∀ c ∈ capitalized s, isAscii c = true := by
  obtain ⟨c, rest, rfl, hc, hrest⟩ := isSegment_iff.mp h
  have hfirst : isAscii c.toUpper = true :=
    Text.isAscii_toUpper c (isAscii_of_isSmall (isSmall_of_isLower hc))
  exact List.forall_mem_cons.mpr ⟨hfirst, fun d hd => isAscii_of_isSmall (hrest d hd)⟩

theorem map_toLower_segment (h : isSegment s = true) : s.map Char.toLower = s := by
  conv_rhs => rw [← List.map_id s]
  exact List.map_congr_left fun c hc => toLower_small (small_of_isSegment h c hc)

theorem map_toLower_capitalized (h : isSegment s = true) :
    (capitalized s).map Char.toLower = s := by
  have hlower := map_toLower_segment h
  obtain ⟨c, rest, rfl, hc, hrest⟩ := isSegment_iff.mp h
  have hc := isAscii_of_isSmall (isSmall_of_isLower hc)
  change c.toUpper.toLower :: rest.map Char.toLower = c :: rest
  rw [Text.toLower_toUpper c hc]
  exact hlower

/-- A segment in front of others has more than one letter. -/
theorem rest_ne_nil {c : Char} {rest : List Char} {more : List (List Char)}
    (h : ∀ s ∈ ((c :: rest) :: more).dropLast, 2 ≤ s.length) : more = [] ∨ rest ≠ [] := by
  cases more with
  | nil => exact .inl rfl
  | cons t more =>
    right
    intro hnil
    have hlength : 2 ≤ (c :: rest).length := h _ List.mem_cons_self
    rw [hnil, List.length_singleton] at hlength
    omega

/-- Words with capitals are parted again, each from the next. -/
theorem splitCapitals_words {a : Char} {cs : List Char} (hsmall : ∀ c ∈ cs, isSmall c = true)
    (hends : segments = [] ∨ isSmall a = true ∨ cs ≠ [])
    (hsegments : ∀ s ∈ segments, isSegment s = true)
    (hinner : ∀ s ∈ segments.dropLast, 2 ≤ s.length) :
    splitCapitals (a :: cs ++ segments.flatMap capitalized) =
      a :: cs ++ segments.flatMap fun s => '_' :: capitalized s := by
  induction segments generalizing a cs with
  | nil =>
    rw [List.flatMap_nil, List.flatMap_nil, List.append_nil]
    exact splitCapitals_of_no_capital fun c hc => small_not_upper (hsmall c hc)
  | cons s more ih =>
    obtain ⟨hs, hmore⟩ := List.forall_mem_cons.mp hsegments
    obtain ⟨c, rest, rfl, hc, hrest⟩ := isSegment_iff.mp hs
    have hword := hends.resolve_left (List.cons_ne_nil _ _)
    have hnext : more = [] ∨ isSmall c.toUpper = true ∨ rest ≠ [] :=
      (rest_ne_nil hinner).imp_right .inr
    have hlater : ∀ s ∈ more.dropLast, 2 ≤ s.length := by
      intro t ht
      apply hinner t
      apply List.mem_of_mem_tail
      rwa [List.tail_dropLast]
    calc splitCapitals (a :: cs ++ ((c :: rest) :: more).flatMap capitalized)
        = splitCapitals (a :: cs ++ c.toUpper :: (rest ++ more.flatMap capitalized)) := rfl
      _ = a :: cs ++ '_' :: splitCapitals (c.toUpper :: rest ++ more.flatMap capitalized) :=
        splitCapitals_word hsmall hword (isUpper_toUpper hc)
      _ = a :: cs ++ '_' :: (c.toUpper :: rest ++ more.flatMap fun s => '_' :: capitalized s) := by
        rw [ih hrest hnext hmore hlater]
      _ = a :: cs ++ ((c :: rest) :: more).flatMap fun s => '_' :: capitalized s := rfl

/-- Segments behind underscores, in whatever case they are written, are themselves in lower case. -/
theorem toList_lower_segments (write : List Char → List Char) {first : List Char}
    (hfirst : isSegment first = true)
    (h : ∀ s ∈ segments, (∀ c ∈ write s, isAscii c = true) ∧ (write s).map Char.toLower = s) :
    (Text.lower (String.ofList (first ++ segments.flatMap fun s => '_' :: write s))).toList =
      first ++ segments.flatMap ('_' :: ·) := by
  have hascii : ∀ c ∈ first ++ segments.flatMap fun s => '_' :: write s, isAscii c = true := by
    intro c hc
    rcases List.mem_append.mp hc with hc | hc
    · exact isAscii_of_isSmall (small_of_isSegment hfirst c hc)
    · obtain ⟨s, hs, hc⟩ := List.mem_flatMap.mp hc
      rcases List.mem_cons.mp hc with heq | hc
      · rw [heq]
        rfl
      · exact (h s hs).1 c hc
  rw [Text.toList_lower (by rwa [String.toList_ofList]), String.toList_ofList, List.map_append,
    map_toLower_segment hfirst, List.map_flatMap]
  congr 1
  apply List.flatMap_congr
  intro s hs
  rw [List.map_cons, (h s hs).2]
  rfl

end

namespace SnakeName

def text (n : SnakeName) : String := String.ofList (['_'].intercalate n.segments)

def camelCase (n : SnakeName) : String :=
  String.ofList (n.segments.head n.nonempty ++ n.segments.tail.flatMap capitalized)

/-- The first segment, and the others. -/
theorem segments_eq (n : SnakeName) : ∃ first more, n.segments = first :: more ∧
    isSegment first = true ∧ (∀ s ∈ more, isSegment s = true) ∧
    ∀ s ∈ more.dropLast, 2 ≤ s.length := by
  obtain ⟨segments, hne, hsegments, hinner⟩ := n
  obtain ⟨first, more, rfl⟩ := List.exists_cons_of_ne_nil hne
  obtain ⟨hfirst, hmore⟩ := List.forall_mem_cons.mp hsegments
  exact ⟨first, more, rfl, hfirst, hmore, hinner⟩

theorem toList_text {n : SnakeName} {first : List Char} {more : List (List Char)}
    (h : n.segments = first :: more) : n.text.toList = first ++ more.flatMap ('_' :: ·) := by
  rw [text, String.toList_ofList, h, Text.intercalate_cons_eq]

theorem toList_camelCase {n : SnakeName} {first : List Char} {more : List (List Char)}
    (h : n.segments = first :: more) : n.camelCase.toList = first ++ more.flatMap capitalized := by
  simp only [camelCase, String.toList_ofList, h, List.head_cons, List.tail_cons]

/-- A name with underscores is its own spelling. -/
theorem snakeCase_text (n : SnakeName) : snakeCase n.text = n.text := by
  obtain ⟨first, more, hsegments, hfirst, hmore, -⟩ := n.segments_eq
  have hwhole := toList_text hsegments
  obtain ⟨c, rest, rfl, hc, hrest⟩ := isSegment_iff.mp hfirst
  have hplain : ∀ d ∈ rest ++ more.flatMap ('_' :: ·), d.isUpper = false := by
    intro d hd
    rcases List.mem_append.mp hd with hd | hd
    · exact small_not_upper (hrest d hd)
    · obtain ⟨s, hs, hd⟩ := List.mem_flatMap.mp hd
      rcases List.mem_cons.mp hd with heq | hd
      · rw [heq]
        rfl
      · exact small_not_upper (small_of_isSegment (hmore s hs) d hd)
  have hkept : ∀ s ∈ more, (∀ d ∈ s, isAscii d = true) ∧ s.map Char.toLower = s := fun s hs =>
    ⟨fun d hd => isAscii_of_isSmall (small_of_isSegment (hmore s hs) d hd),
      map_toLower_segment (hmore s hs)⟩
  have hlower := toList_lower_segments id hfirst hkept
  rw [← String.toList_inj, snakeCase, hwhole, List.cons_append, splitCapitals_of_no_capital hplain]
  exact hlower

/-- A name in camel case spells the name with underscores. -/
theorem snakeCase_camelCase (n : SnakeName) : snakeCase n.camelCase = n.text := by
  obtain ⟨first, more, hsegments, hfirst, hmore, hinner⟩ := n.segments_eq
  have hparted : splitCapitals (first ++ more.flatMap capitalized) =
      first ++ more.flatMap fun s => '_' :: capitalized s := by
    obtain ⟨c, rest, rfl, hc, hrest⟩ := isSegment_iff.mp hfirst
    exact splitCapitals_words hrest (.inr (.inl (isSmall_of_isLower hc))) hmore hinner
  rw [← String.toList_inj, snakeCase, toList_camelCase hsegments, hparted, toList_text hsegments]
  exact toList_lower_segments capitalized hfirst fun s hs =>
    ⟨isAscii_capitalized (hmore s hs), map_toLower_capitalized (hmore s hs)⟩

theorem text_injective : Function.Injective text := by
  intro m n h
  have hsplit : ∀ n : SnakeName, n.text.toList.splitOn '_' = n.segments := by
    intro n
    rw [text, String.toList_ofList]
    refine List.splitOn_intercalate '_' (fun s hs hunderscore => ?_) n.nonempty
    have hsmall := small_of_isSegment (n.segment s hs) '_' hunderscore
    exact absurd hsmall (by decide)
  have hsegments : m.segments = n.segments := by rw [← hsplit m, ← hsplit n, h]
  cases m
  cases n
  cases hsegments
  rfl

/-- Two names with one camel case are one name. -/
theorem camelCase_injective : Function.Injective camelCase := by
  intro m n h
  apply text_injective
  rw [← snakeCase_camelCase m, h, snakeCase_camelCase]

end SnakeName

def OptionName.snakeName (o : OptionName) : SnakeName where
  segments := o.text.toList.splitOn '_'
  nonempty := List.splitOn_ne_nil '_' _
  segment := by cases o <;> decide
  inner := by cases o <;> decide

theorem OptionName.text_snakeName (o : OptionName) : o.snakeName.text = o.text := by
  rw [SnakeName.text, snakeName, List.intercalate_splitOn, String.ofList_toList]

theorem GenerationKind.optionNamed?_eq_some_iff {kind : GenerationKind} {name : String}
    {o : OptionName} : kind.optionNamed? name = some o ↔ o ∈ kind.options ∧ o.text = name := by
  constructor
  · intro h
    exact ⟨List.mem_of_find?_eq_some h, text_of_optionNamed? h⟩
  · intro h
    obtain ⟨ho, rfl⟩ := h
    cases hfound : kind.optionNamed? o.text with
    | none =>
      have hnone := List.find?_eq_none.mp hfound o ho
      exact absurd (beq_self_eq_true o.text) hnone
    | some other => rw [OptionName.text_injective (text_of_optionNamed? hfound)]

/-- What the spellings of a name come to. -/
structure SpellsOneName (n : SnakeName) : Prop where
  /-- With underscores it is read as it stands. -/
  itself : snakeCase n.text = n.text
  /-- In camel case it is read as the same name. -/
  camel : snakeCase n.camelCase = n.text
  /-- No other name has this camel case. -/
  unique : ∀ m : SnakeName, m.camelCase = n.camelCase → m = n
  /-- The only option that its camel case can reach is the one with this name. -/
  reaches : ∀ (kind : GenerationKind) (o : OptionName),
    kind.optionNamed? (snakeCase n.camelCase) = some o ↔ o ∈ kind.options ∧ o.text = n.text

/-- Each spelling of a name is of that name only. All options have such names, so that none is
reached by the camel case of another one. -/
theorem spellings_of_one_name :
    (∀ n : SnakeName, SpellsOneName n) ∧
    ∀ o : OptionName, o.snakeName.text = o.text ∧ ∀ (kind : GenerationKind) (other : OptionName),
      kind.optionNamed? (snakeCase o.snakeName.camelCase) = some other ↔
        other ∈ kind.options ∧ other = o := by
  have hreaches : ∀ (n : SnakeName) (kind : GenerationKind) (o : OptionName),
      kind.optionNamed? (snakeCase n.camelCase) = some o ↔ o ∈ kind.options ∧ o.text = n.text := by
    intro n kind o
    rw [n.snakeCase_camelCase]
    exact GenerationKind.optionNamed?_eq_some_iff
  refine ⟨fun n => ?_, fun o => ⟨o.text_snakeName, fun kind other => ?_⟩⟩
  · exact ⟨n.snakeCase_text, n.snakeCase_camelCase, fun m h => SnakeName.camelCase_injective h,
      hreaches n⟩
  · rw [hreaches, o.text_snakeName, OptionName.text_injective.eq_iff]

end ApexConstants

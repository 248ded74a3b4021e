import ApexConstants.Json
import Mathlib.Data.List.Nodup
import Mathlib.Data.List.TakeDrop

namespace ApexConstants.Json

/-- A value as a text can hold it: the keys of an object are texts and no two are alike, whole
numbers do not have too many digits, and no more than `room` lists and objects stand one inside the
other. -/
inductive Formed : Nat → Json → Prop
  | null (room : Nat) : Formed room .null
  | bool (room : Nat) (b : Bool) : Formed room (.bool b)
  | int (room : Nat) {n : Int} (short : n.natAbs < Nat.pow 10 digitLimit) : Formed room (.int n)
  | float (room : Nat) (x : Number.Binary64) : Formed room (.float x)
  | str (room : Nat) (s : String) : Formed room (.str s)
  | arr {room : Nat} {items : List Json} (each : ∀ v ∈ items, Formed room v) :
      Formed (room + 1) (.arr items)
  | obj {room : Nat} {members : List (Key × Json)} (keys : (members.map Prod.fst).Nodup)
      (texts : ∀ m ∈ members, m.1.isForeign = false) (each : ∀ m ∈ members, Formed room m.2) :
      Formed (room + 1) (.obj members)

variable {key : Key} {value : Json} {members : Members} {room more : Nat}

theorem Formed.mono (h : Formed room value) (hmore : room ≤ more) : Formed more value := by
  induction h generalizing more with
  | null => exact .null _
  | bool => exact .bool _ _
  | int _ short => exact .int _ short
  | float => exact .float _ _
  | str => exact .str _ _
  | arr _ ih =>
    obtain ⟨more, rfl⟩ := Nat.exists_eq_add_of_lt hmore
    exact .arr fun v hv => ih v hv (by omega)
  | obj keys texts _ ih =>
    obtain ⟨more, rfl⟩ := Nat.exists_eq_add_of_lt hmore
    exact .obj keys texts fun m hm => ih m hm (by omega)

structure FormedMembers (room : Nat) (members : Members) : Prop where
  keys : (members.map Prod.fst).Nodup
  texts : ∀ m ∈ members, m.1.isForeign = false
  each : ∀ m ∈ members, Formed room m.2

theorem formedMembers_nil : FormedMembers room [] := ⟨List.nodup_nil, by simp, by simp⟩

theorem FormedMembers.obj (h : FormedMembers room members) : Formed (room + 1) (.obj members) :=
  .obj h.keys h.texts h.each

theorem Formed.inside (h : Formed room (.obj members)) : FormedMembers room members := by
  cases h with
  | obj keys texts each => exact ⟨keys, texts, fun m hm => (each m hm).mono (Nat.le_succ _)⟩

/-- What stands under a key, or in its place. -/
theorem Formed.getD (h : Formed room (.obj members)) (key : Key) (hvalue : Formed room value) :
    Formed room ((get? members key).getD value) := by
  cases hfound : get? members key with
  | none => exact hvalue
  | some v =>
    obtain ⟨before, after, hsplit, -⟩ := List.lookup_eq_some_iff.mp hfound
    exact h.inside.each (key, v) (by simp [hsplit])

theorem printFaultItems_eq_none {items : List Json}
    (h : ∀ v ∈ items, printFaultWithin room v = none) : printFaultItems room items = none := by
  induction items with
  | nil => rfl
  | cons item items ih =>
    rw [List.forall_mem_cons] at h
    rw [printFaultItems, h.1, ih h.2]
    rfl

theorem printFaultMembers_eq_none (h : ∀ m ∈ members, printFaultWithin room m.2 = none) :
    printFaultMembers room members = none := by
  induction members with
  | nil => rfl
  | cons m members ih =>
    rw [List.forall_mem_cons] at h
    rw [printFaultMembers, h.1, ih h.2]
    rfl

theorem Formed.printFaultWithin_eq_none (h : Formed room value) (hmore : room < more) :
    printFaultWithin more value = none := by
  induction h generalizing more with
  | int _ short =>
    obtain ⟨more, rfl⟩ := Nat.exists_eq_add_of_lt hmore
    rw [printFaultWithin, if_neg (Nat.not_le.mpr short)]
  | arr _ ih =>
    obtain ⟨more, rfl⟩ := Nat.exists_eq_add_of_lt hmore
    exact printFaultItems_eq_none fun v hv => ih v hv (by omega)
  | obj _ _ _ ih =>
    obtain ⟨more, rfl⟩ := Nat.exists_eq_add_of_lt hmore
    exact printFaultMembers_eq_none fun m hm => ih m hm (by omega)
  | null | bool | float | str =>
    obtain ⟨more, rfl⟩ := Nat.exists_eq_add_of_lt hmore
    rfl

theorem Formed.printFault? (h : Formed depthLimit value) : value.printFault? = none :=
  h.printFaultWithin_eq_none (by decide)

theorem mem_insert {m : Key × Json} (h : m ∈ insert key value members) :
    m = (key, value) ∨ m ∈ members := by
  induction members with
  | nil => simpa [insert] using h
  | cons first rest ih =>
    obtain ⟨k, v⟩ := first
    by_cases hk : k = key
    · simp only [insert, hk, beq_self_eq_true, if_true, List.mem_cons] at h ⊢
      rcases h with he | ht
      · exact .inl he
      · exact .inr (.inr ht)
    · simp only [insert, beq_iff_eq, hk, if_false, List.mem_cons] at h ⊢
      rcases h with he | ht
      · exact .inr (.inl he)
      · rcases ih ht with hnew | hold
        · exact .inl hnew
        · exact .inr (.inr hold)

theorem mem_insertAll {m : Key × Json} {others : Members} (h : m ∈ insertAll members others) :
    m ∈ members ∨ m ∈ others := by
  induction others generalizing members with
  | nil => exact .inl h
  | cons first others ih =>
    rw [insertAll, List.foldl_cons, ← insertAll] at h
    rcases ih h with hbefore | hlater
    · rcases mem_insert hbefore with rfl | hold
      · exact .inr List.mem_cons_self
      · exact .inl hold
    · exact .inr (List.mem_cons_of_mem _ hlater)

theorem mem_keys_insert {k : Key} :
    k ∈ (insert key value members).map Prod.fst ↔ k = key ∨ k ∈ members.map Prod.fst := by
  induction members with
  | nil => simp [insert]
  | cons first rest ih =>
    obtain ⟨other, v⟩ := first
    by_cases hother : other = key
    · simp [insert, hother]
    · simp only [insert, beq_iff_eq, hother, if_false, List.map_cons, List.mem_cons, ih]
      tauto

theorem nodup_insert (h : (members.map Prod.fst).Nodup) :
    ((insert key value members).map Prod.fst).Nodup := by
  induction members with
  | nil => simp [insert]
  | cons first rest ih =>
    obtain ⟨other, v⟩ := first
    simp only [List.map_cons, List.nodup_cons] at h
    by_cases hother : other = key
    · subst hother
      simpa [insert] using h
    · simp only [insert, beq_iff_eq, hother, if_false, List.map_cons, List.nodup_cons,
        mem_keys_insert, not_or]
      exact ⟨⟨not_false, h.1⟩, ih h.2⟩

theorem mem_keys_insertAll {k : Key} {others : Members} :
    k ∈ (insertAll members others).map Prod.fst ↔
      k ∈ members.map Prod.fst ∨ k ∈ others.map Prod.fst := by
  induction others generalizing members with
  | nil => simp [insertAll]
  | cons first others ih =>
    rw [insertAll, List.foldl_cons, ← insertAll, ih, mem_keys_insert, List.map_cons, List.mem_cons]
    tauto

theorem nodup_insertAll {others : Members} (h : (members.map Prod.fst).Nodup) :
    ((insertAll members others).map Prod.fst).Nodup := by
  induction others generalizing members with
  | nil => exact h
  | cons first others ih => exact ih (nodup_insert h)

theorem FormedMembers.insert (h : FormedMembers room members) (hkey : key.isForeign = false)
    (hvalue : Formed room value) : FormedMembers room (insert key value members) := by
  refine ⟨nodup_insert h.keys, fun m hm => ?_, fun m hm => ?_⟩
  · rcases mem_insert hm with rfl | hold
    · exact hkey
    · exact h.texts m hold
  · rcases mem_insert hm with rfl | hold
    · exact hvalue
    · exact h.each m hold

/-- Every key is a text, and every value can be printed. -/
def Presentable (members : Members) : Prop :=
  ∀ m ∈ members, m.1.isForeign = false ∧ m.2.printFault? = none

theorem FormedMembers.presentable (h : FormedMembers depthLimit members) : Presentable members :=
  fun m hm => ⟨h.texts m hm, (h.each m hm).printFault?⟩

theorem Presentable.insertAll {more : Members} (h : Presentable members)
    (hmore : Presentable more) : Presentable (insertAll members more) := by
  intro m hm
  rcases mem_insertAll hm with hold | hnew
  · exact h m hold
  · exact hmore m hnew

theorem Key.isForeign_ofCodes (codes : List Nat) : (Key.ofCodes codes).isForeign = false := by
  unfold Key.ofCodes
  split <;> rfl

namespace Token

/-- A token stands for a value that fits anywhere, for a key that is a text, or for neither. -/
def Fits : Token → Prop
  | .scalar v => ∀ room, Formed room v
  | .text k => k.isForeign = false
  | .mark _ => True
  | .excess _ => True

theorem foldl_digits_lt {cs : List Char} (h : ∀ c ∈ cs, c.isDigit = true) (n : Nat) :
    cs.foldl (fun n c => 10 * n + (c.toNat - '0'.toNat)) n < (n + 1) * Nat.pow 10 cs.length := by
  induction cs generalizing n with
  | nil => simp
  | cons c cs ih =>
    obtain ⟨hc, hcs⟩ := List.forall_mem_cons.mp h
    have hdigit : c.toNat - '0'.toNat ≤ 9 := by
      have hnine : c.toNat ≤ 57 := by
        simp only [Char.isDigit, Bool.and_eq_true, decide_eq_true_eq] at hc
        exact hc.2
      have hzero : '0'.toNat = 48 := rfl
      omega
    have hpower : Nat.pow 10 (cs.length + 1) = 10 * Nat.pow 10 cs.length := Nat.pow_succ'
    rw [List.foldl_cons, List.length_cons, hpower]
    calc cs.foldl (fun n c => 10 * n + (c.toNat - '0'.toNat)) (10 * n + (c.toNat - '0'.toNat))
        < (10 * n + (c.toNat - '0'.toNat) + 1) * Nat.pow 10 cs.length := ih hcs _
      _ ≤ ((n + 1) * 10) * Nat.pow 10 cs.length := Nat.mul_le_mul_right _ (by omega)
      _ = (n + 1) * (10 * Nat.pow 10 cs.length) := Nat.mul_assoc ..

theorem decimal?_lt {cs : List Char} {n limit : Nat} (h : decimal? cs = some n)
    (hlimit : cs.length ≤ limit) : n < Nat.pow 10 limit := by
  unfold decimal? at h
  split at h
  · cases h
  · rename_i hdigits
    cases h
    have hall : ∀ c ∈ cs, c.isDigit = true := by
      simp only [Bool.or_eq_true, Bool.not_eq_true', not_or, Bool.not_eq_false, List.all_eq_true]
        at hdigits
      exact hdigits.2
    have hlt := foldl_digits_lt hall 0
    rw [Nat.zero_add, Nat.one_mul] at hlt
    exact Nat.lt_of_lt_of_le hlt (Nat.pow_le_pow_right (by decide) hlimit)

/-- The whole number at the start of a word does not have too many digits, as far as one is read
there. -/
def Bounded (cs : List Char) : Prop :=
  (cs.takeWhile Char.isDigit).length ≤ digitLimit ∨
    (cs.takeWhile Char.isDigit).head? = some '0' ∨ goesOn (cs.dropWhile Char.isDigit) = true

theorem formed_unsigned? {negative : Bool} {cs : List Char} (hbounded : Bounded cs)
    (h : unsigned? negative cs = some value) (room : Nat) : Formed room value := by
  unfold unsigned? at h
  simp only [List.span_eq_takeWhile_dropWhile, Option.bind_eq_bind, Option.bind_eq_some_iff] at h
  obtain ⟨n, hn, h⟩ := h
  split at h
  · cases h
  · rename_i hleading
    split at h
    · rename_i hend
      cases h
      have hlength : (cs.takeWhile Char.isDigit).length ≤ digitLimit := by
        rcases hbounded with hshort | hzero | hgoes
        · exact hshort
        · simp only [hzero, beq_self_eq_true, Bool.and_true, decide_eq_true_eq, Nat.not_lt] at hleading
          exact Nat.le_trans hleading (by decide)
        · rw [List.isEmpty_iff.mp hend] at hgoes
          cases hgoes
      have hsmall : n < Nat.pow 10 digitLimit := decimal?_lt hn hlength
      refine .int room ?_
      split
      · rwa [Int.natAbs_neg]
      · exact hsmall
    · -- A fraction, an exponent and all digits are read, and each may fail.
      repeat' split at h
      all_goals
        obtain ⟨fraction, -, h⟩ := Option.bind_eq_some_iff.mp h
        repeat' split at h
      all_goals
        obtain ⟨power, -, h⟩ := Option.bind_eq_some_iff.mp h
        obtain ⟨digits, -, h⟩ := Option.bind_eq_some_iff.mp h
        cases h
        exact .float _ _

theorem bounded_of_excessDigits? {cs : List Char} (h : excessDigits? cs = none) :
    Bounded (if cs.head? == some '-' then cs.drop 1 else cs) := by
  unfold excessDigits? at h
  generalize (if cs.head? == some '-' then cs.drop 1 else cs) = rest at h ⊢
  simp only [List.span_eq_takeWhile_dropWhile] at h
  split at h
  · rename_i hbounded
    simpa [Bounded, or_assoc] using hbounded
  · cases h

theorem formed_number? {cs : List Char} (hbounded : excessDigits? cs = none)
    (h : number? cs = some value) (room : Nat) : Formed room value := by
  have hwhole := bounded_of_excessDigits? hbounded
  unfold number? at h
  split at h
  · exact formed_unsigned? hwhole h room
  · rename_i hplain
    have hhead : ¬ (cs.head? == some '-') = true := by
      intro hminus
      obtain ⟨rest, rfl⟩ := List.head?_eq_some_iff.mp (eq_of_beq hminus)
      exact hplain rest rfl
    rw [if_neg hhead] at hwhole
    exact formed_unsigned? hwhole h room

theorem fits_ofWord? {cs : List Char} {token : Token} (h : ofWord? cs = some token) :
    token.Fits := by
  unfold ofWord? at h
  split at h
  · cases h
    trivial
  · rename_i hbounded
    split at h
    case h_7 =>
      obtain ⟨number, hnumber, rfl⟩ := Option.map_eq_some_iff.mp h
      exact formed_number? hbounded hnumber
    all_goals
      cases h
      intro room
      constructor

def AllFit (tokens : List Token) : Prop := ∀ token ∈ tokens, token.Fits

theorem AllFit.cons {token : Token} {tokens : List Token} (h : AllFit tokens)
    (htoken : token.Fits) : AllFit (token :: tokens) :=
  List.forall_mem_cons.mpr ⟨htoken, h⟩

theorem allFit_begin {tokens : List Token} {c : Char} {s : Scan} (h : AllFit tokens)
    (hbegin : Scan.begin tokens c = some s) : AllFit s.tokens := by
  unfold Scan.begin at hbegin
  split at hbegin
  · cases hbegin
    exact h
  · split at hbegin
    · cases hbegin
      exact h
    · split at hbegin
      · cases hbegin
        exact h
      · split at hbegin
        · cases hbegin
          exact h.cons trivial
        · cases hbegin

theorem allFit_step {s after : Scan} {c : Char} (h : AllFit s.tokens)
    (hstep : s.step c = some after) : AllFit after.tokens := by
  unfold Scan.step at hstep
  split at hstep
  · exact allFit_begin h hstep
  · split at hstep
    · cases hstep
      exact h
    · obtain ⟨token, htoken, hbegin⟩ := Option.bind_eq_some_iff.mp hstep
      exact allFit_begin (h.cons (fits_ofWord? htoken)) hbegin
  · split at hstep
    · cases hstep
      exact h.cons (Key.isForeign_ofCodes _)
    · split at hstep
      · cases hstep
        exact h
      · split at hstep
        · cases hstep
        · cases hstep
          exact h
  · split at hstep
    · cases hstep
      exact h
    · obtain ⟨d, -, hafter⟩ := Option.map_eq_some_iff.mp hstep
      subst hafter
      exact h
  · obtain ⟨digit, -, hafter⟩ := Option.bind_eq_some_iff.mp hstep
    cases hafter
    exact h

theorem allFit_run {s : Scan} (h : AllFit s.tokens) (cs : List Char) : AllFit (s.run cs).1 := by
  induction cs generalizing s with
  | nil => exact fun token htoken => h token (List.mem_reverse.mp htoken)
  | cons c cs ih =>
    unfold Scan.run
    split
    · rename_i after hstep
      exact ih (allFit_step h hstep)
    · exact fun token htoken => h token (List.mem_reverse.mp htoken)

theorem allFit_ofText (s : String) : AllFit (ofText s).1 :=
  allFit_run (s := ⟨[], .nothing⟩) (fun _ htoken => nomatch htoken) _

end Token

/-- What the lists and objects hold that are still open, where `room` more can stand inside the
innermost. -/
inductive Frames : Nat → List Frame → Prop
  | nil : Frames depthLimit []
  | list {room : Nat} {items : List Json} {opened : List Frame} (each : ∀ v ∈ items, Formed room v)
      (below : Frames (room + 1) opened) : Frames room (.list items :: opened)
  | object {room : Nat} {members : Members} {key : Key} {opened : List Frame}
      (inside : FormedMembers room members) (known : key.isForeign = false)
      (below : Frames (room + 1) opened) : Frames room (.object members key :: opened)

theorem Frames.room_add {opened : List Frame} (h : Frames room opened) :
    room + opened.length = depthLimit := by
  induction h with
  | nil => rfl
  | list _ _ ih => rw [List.length_cons]; omega
  | object _ _ _ ih => rw [List.length_cons]; omega

namespace Building

inductive Takes : Building → Token → Building → Prop
  | scalar {opened : List Frame} {first : Bool} {v : Json} :
      Takes (.value opened first) (.scalar v) (.complete opened v)
  | text {opened : List Frame} {first : Bool} {k : Key} :
      Takes (.value opened first) (.text k) (.complete opened (.str k.shown))
  | openList {opened : List Frame} {first : Bool} (room : opened.length < depthLimit) :
      Takes (.value opened first) (.mark '[') (.value (.list [] :: opened) true)
  | openObject {opened : List Frame} {first : Bool} (room : opened.length < depthLimit) :
      Takes (.value opened first) (.mark '\x7b') (.key opened [] true)
  | emptyList {opened : List Frame} :
      Takes (.value (.list [] :: opened) true) (.mark ']') (.complete opened (.arr []))
  | key {opened : List Frame} {members : Members} {first : Bool} {k : Key} :
      Takes (.key opened members first) (.text k) (.colon opened members k)
  | emptyObject {opened : List Frame} {members : Members} :
      Takes (.key opened members true) (.mark '\x7d') (.complete opened (.obj members))
  | colon {opened : List Frame} {members : Members} {k : Key} :
      Takes (.colon opened members k) (.mark ':') (.value (.object members k :: opened) false)
  | nextItem {opened : List Frame} {items : List Json} {v : Json} :
      Takes (.complete (.list items :: opened) v) (.mark ',')
        (.value (.list (v :: items) :: opened) false)
  | closeList {opened : List Frame} {items : List Json} {v : Json} :
      Takes (.complete (.list items :: opened) v) (.mark ']')
        (.complete opened (.arr (v :: items).reverse))
  | nextMember {opened : List Frame} {members : Members} {k : Key} {v : Json} :
      Takes (.complete (.object members k :: opened) v) (.mark ',')
        (.key opened (insert k v members) false)
  | closeObject {opened : List Frame} {members : Members} {k : Key} {v : Json} :
      Takes (.complete (.object members k :: opened) v) (.mark '\x7d')
        (.complete opened (.obj (insert k v members)))

variable {opened : List Frame} {b inside after : Building}

theorem enter_eq_ok (h : enter opened inside = .ok after) :
    opened.length < depthLimit ∧ inside = after := by
  unfold enter at h
  split at h
  · cases h
  · rename_i hroom
    cases h
    exact ⟨Nat.not_le.mp hroom, rfl⟩

theorem takes_of_step {token : Token} (h : b.step token = .ok after) : b.Takes token after := by
  unfold step at h
  split at h
  case h_4 | h_5 =>
    obtain ⟨hroom, rfl⟩ := enter_eq_ok h
    constructor
    exact hroom
  all_goals
    cases h
    try constructor

/-- All that has been built is as it should be. -/
inductive IsFormed : Building → Prop
  | value {room : Nat} {opened : List Frame} {first : Bool} (below : Frames room opened) :
      IsFormed (.value opened first)
  | key {room : Nat} {opened : List Frame} {members : Members} {first : Bool}
      (below : Frames (room + 1) opened) (inside : FormedMembers room members) :
      IsFormed (.key opened members first)
  | colon {room : Nat} {opened : List Frame} {members : Members} {k : Key}
      (below : Frames (room + 1) opened) (inside : FormedMembers room members)
      (known : k.isForeign = false) : IsFormed (.colon opened members k)
  | complete {room : Nat} {opened : List Frame} {v : Json} (below : Frames room opened)
      (built : Formed room v) : IsFormed (.complete opened v)

theorem isFormed_step {token : Token} (h : b.IsFormed) (htoken : token.Fits)
    (hstep : b.step token = .ok after) : after.IsFormed := by
  cases takes_of_step hstep with
  | scalar =>
    cases h with
    | value below => exact .complete below (htoken _)
  | text =>
    cases h with
    | value below => exact .complete below (.str _ _)
  | openList hroom =>
    cases h with
    | @value room _ _ below =>
      have hsum := below.room_add
      obtain ⟨room, rfl⟩ : ∃ less, room = less + 1 := ⟨room - 1, by omega⟩
      exact .value (.list (by simp) below)
  | openObject hroom =>
    cases h with
    | @value room _ _ below =>
      have hsum := below.room_add
      obtain ⟨room, rfl⟩ : ∃ less, room = less + 1 := ⟨room - 1, by omega⟩
      exact .key below formedMembers_nil
  | emptyList =>
    cases h with
    | value below =>
      cases below with
      | list each below => exact .complete below (.arr each)
  | key =>
    cases h with
    | key below inside => exact .colon below inside htoken
  | emptyObject =>
    cases h with
    | key below inside => exact .complete below inside.obj
  | colon =>
    cases h with
    | colon below inside known => exact .value (.object inside known below)
  | nextItem =>
    cases h with
    | complete below built =>
      cases below with
      | list each below => exact .value (.list (List.forall_mem_cons.mpr ⟨built, each⟩) below)
  | closeList =>
    cases h with
    | complete below built =>
      cases below with
      | list each below =>
        have hall := List.forall_mem_cons.mpr ⟨built, each⟩
        exact .complete below (.arr fun v hv => hall v (List.mem_reverse.mp hv))
  | nextMember =>
    cases h with
    | complete below built =>
      cases below with
      | object inside known below => exact .key below (inside.insert known built)
  | closeObject =>
    cases h with
    | complete below built =>
      cases below with
      | object inside known below => exact .complete below (inside.insert known built).obj

theorem isFormed_foldlM {tokens : List Token} (h : b.IsFormed)
    (htokens : ∀ token ∈ tokens, token.Fits) (hbuilt : tokens.foldlM step b = .ok after) :
    after.IsFormed := by
  induction tokens generalizing b with
  | nil =>
    cases hbuilt
    exact h
  | cons token tokens ih =>
    obtain ⟨htoken, hrest⟩ := List.forall_mem_cons.mp htokens
    rw [List.foldlM_cons] at hbuilt
    cases hstep : b.step token with
    | error fault => simp [hstep, bind, Except.bind] at hbuilt
    | ok next =>
      rw [hstep] at hbuilt
      exact ih (isFormed_step h htoken hstep) hrest hbuilt

end Building

theorem formed_read {text : String} (h : read text = .ok value) : Formed depthLimit value := by
  have htokens := Token.allFit_ofText text
  unfold read at h
  generalize Token.ofText text = parsed at h htokens
  obtain ⟨tokens, whole⟩ := parsed
  dsimp only at h htokens
  cases hbuilt : tokens.foldlM Building.step (.value [] false) with
  | error fault => simp [hbuilt, bind, Except.bind] at h
  | ok built =>
    have hformed := Building.isFormed_foldlM (.value .nil) htokens hbuilt
    rw [hbuilt] at h
    dsimp only [bind, Except.bind] at h
    split at h
    · cases h
      cases hformed with
      | complete below hvalue =>
        cases below
        exact hvalue
    · cases h

end ApexConstants.Json

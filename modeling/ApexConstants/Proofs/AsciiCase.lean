import ApexConstants.Text
import Mathlib.Data.List.Basic

namespace ApexConstants.Text

/-- What holds of the first 128 characters holds of all of ASCII. -/
theorem forall_ascii {p : Char → Prop} (h : ∀ n < 128, p (Char.ofNat n)) (c : Char)
    (hc : isAscii c = true) : p c := by
  have hn : c.toNat < 128 := by simpa [isAscii, UInt32.lt_iff_toNat_lt] using hc
  have hp := h c.toNat hn
  rwa [Char.ofNat_toNat] at hp

theorem isAscii_toUpper (c : Char) (hc : isAscii c = true) : isAscii c.toUpper = true := by
  revert c hc
  exact forall_ascii (by decide)

theorem toLower_toUpper (c : Char) (hc : isAscii c = true) : c.toUpper.toLower = c.toLower := by
  revert c hc
  exact forall_ascii (by decide)

/-- No letter of ASCII is a sigma, so that its neighbours do not matter. -/
theorem lowerFrom_ascii {cs : List Char} (h : ∀ c ∈ cs, isAscii c = true) (inWord : Bool) :
    lowerFrom inWord cs = cs.map Char.toLower := by
  induction cs generalizing inWord with
  | nil => rfl
  | cons c cs ih =>
    have hc : isAscii c = true := h c List.mem_cons_self
    have hsigma : (c == '\u03A3') = false := by
      revert c hc
      exact fun c _ hc => forall_ascii (p := fun c => (c == '\u03A3') = false) (by decide) c hc
    have htail := ih (fun d hd => h d (List.mem_cons_of_mem c hd))
    simp [lowerFrom, hsigma, lowerChar, hc, htail]

theorem toList_lower {s : String} (h : ∀ c ∈ s.toList, isAscii c = true) :
    (lower s).toList = s.toList.map Char.toLower := by
  simp [lower, lowerFrom_ascii h]

theorem toList_upper {s : String} (h : ∀ c ∈ s.toList, isAscii c = true) :
    (upper s).toList = s.toList.map Char.toUpper := by
  rw [upper, String.toList_ofList, List.map_eq_flatMap]
  apply List.flatMap_congr
  intro c hc
  simp [upperChar, h c hc]

theorem upper_append (s t : String) : upper (s ++ t) = upper s ++ upper t := by
  simp [upper, String.ofList_append]

/-- Upper case does not change what a text of ASCII is in lower case. -/
theorem lower_upper {s : String} (h : ∀ c ∈ s.toList, isAscii c = true) :
    lower (upper s) = lower s := by
  apply String.toList_inj.mp
  have hup : ∀ c ∈ (upper s).toList, isAscii c = true := by
    intro c hc
    rw [toList_upper h] at hc
    obtain ⟨d, hd, rfl⟩ := List.mem_map.mp hc
    exact isAscii_toUpper d (h d hd)
  rw [toList_lower hup, toList_upper h, toList_lower h, List.map_map]
  apply List.map_congr_left
  intro c hc
  exact toLower_toUpper c (h c hc)

theorem isAscii_iff {c : Char} : isAscii c = true ↔ c.toNat < 128 := by
  simp [isAscii, UInt32.lt_iff_toNat_lt]

/-- A code point that is no character gives the zero, and every other one is that of its character.
-/
theorem eq_toNat_of_ofNat {n : Nat} {c : Char} (h : Char.ofNat n = c) (hc : c ≠ '\x00') :
    n = c.toNat := by
  unfold Char.ofNat at h
  by_cases hvalid : n.isValidChar
  · rw [dif_pos hvalid] at h
    exact congrArg Char.toNat h
  · rw [dif_neg hvalid] at h
    exact absurd h.symm hc

/-- Beyond ASCII, the kelvin sign is the only character that a span leads into ASCII. -/
theorem image_lowerSpans {n : Nat} (hn : 128 ≤ n) :
    128 ≤ CaseSpan.image lowerSpans n ∨ CaseSpan.image lowerSpans n = 'k'.toNat := by
  have hspans : ∀ s ∈ lowerSpans, 128 ≤ (s.first : Int) + s.shift ∨
      s.first = s.last ∧ (s.first : Int) + s.shift = 'k'.toNat := by decide +kernel
  unfold CaseSpan.image
  split
  · rename_i s hs
    have hcovers := List.find?_some hs
    simp only [CaseSpan.covers, Bool.and_eq_true, decide_eq_true_eq] at hcovers
    obtain hhigh | ⟨hsingle, hkelvin⟩ := hspans s (List.mem_of_find?_eq_some hs)
    · exact .inl (by omega)
    · exact .inr (by omega)
  · exact .inl hn

/-- Characters of ASCII that come from nothing beyond ASCII in lower case. -/
def IsOwnLower (c : Char) : Prop := isAscii c = true ∧ c ≠ '\x00' ∧ c ≠ 'i' ∧ c ≠ 'k'

instance : DecidablePred IsOwnLower := fun _ => inferInstanceAs (Decidable (_ ∧ _))

theorem isAscii_of_lowerChar {c : Char} (h : ∀ d ∈ lowerChar c, IsOwnLower d) :
    isAscii c = true := by
  by_contra hbeyond
  unfold lowerChar at h
  rw [if_neg hbeyond] at h
  split at h
  · exact absurd rfl (h 'i' List.mem_cons_self).2.2.1
  · obtain ⟨hascii, hzero, _, hk⟩ := h _ (List.mem_singleton_self _)
    have hcode := eq_toNat_of_ofNat rfl hzero
    rw [isAscii_iff] at hascii hbeyond
    rw [← hcode] at hascii
    rcases image_lowerSpans (Nat.not_lt.mp hbeyond) with hhigh | hkelvin
    · omega
    · rw [hkelvin] at hk
      exact hk (Char.ofNat_toNat 'k')

/-- A text whose lower case has such characters only is of ASCII. -/
theorem isAscii_of_lowerFrom {cs : List Char} {inWord : Bool}
    (h : ∀ d ∈ lowerFrom inWord cs, IsOwnLower d) : ∀ c ∈ cs, isAscii c = true := by
  induction cs generalizing inWord with
  | nil => simp
  | cons c cs ih =>
    simp only [lowerFrom, List.forall_mem_append] at h
    obtain ⟨himage, hrest⟩ := h
    refine List.forall_mem_cons.mpr ⟨?_, ih hrest⟩
    split at himage
    · -- Neither form of a small sigma is in ASCII.
      have hascii := (himage _ (List.mem_singleton_self _)).1
      split at hascii <;> cases hascii
    · exact isAscii_of_lowerChar himage

theorem isAscii_of_toLower {c : Char} (h : isAscii c.toLower = true) : isAscii c = true := by
  rw [isAscii_iff] at h ⊢
  unfold Char.toLower at h
  split at h
  · rename_i hupper
    have := hupper.2
    simp only [UInt32.le_iff_toNat_le] at this
    change c.toNat ≤ _ at this
    have h90 : ('Z'.val).toNat = 90 := rfl
    omega
  · exact h

/-- Which texts are such a word in lower case is a matter of the case of ASCII letters. -/
theorem lower_eq_iff {s word : String} (h : ∀ d ∈ word.toList, IsOwnLower d) :
    lower s = word ↔ s.toList.map Char.toLower = word.toList := by
  constructor
  · rintro rfl
    rw [lower, String.toList_ofList] at h
    exact (toList_lower (isAscii_of_lowerFrom h)).symm
  · intro heq
    have hascii : ∀ c ∈ s.toList, isAscii c = true := by
      intro c hc
      have hmem : c.toLower ∈ word.toList := heq ▸ List.mem_map_of_mem hc
      exact isAscii_of_toLower (h _ hmem).1
    rw [← String.toList_inj, toList_lower hascii, heq]

/-- A character before the letters is in upper case only where it was before. -/
theorem mem_upperChar {c low : Char} (hlow : low.toNat < 'A'.toNat) (hzero : low ≠ '\x00')
    (h : low ∈ upperChar c) : c = low := by
  unfold upperChar at h
  split at h
  · rename_i hascii
    rw [List.mem_singleton] at h
    subst h
    revert hlow
    exact forall_ascii (p := fun c => c.toUpper.toNat < 'A'.toNat → c = c.toUpper) (by decide) c hascii
  · rename_i hbeyond
    rw [isAscii_iff] at hbeyond
    have hA : 'A'.toNat < 128 := by decide
    split at h
    · rename_i codes hcodes
      have htable : ∀ e ∈ upperExpansions, ∀ code ∈ e.2, 'A'.toNat ≤ code := by decide +kernel
      obtain ⟨front, back, hsplit, -⟩ := List.lookup_eq_some_iff.mp hcodes
      obtain ⟨code, hcode, heq⟩ := List.mem_map.mp h
      have hhigh := htable (c.toNat, codes) (by simp [hsplit]) code hcode
      have := eq_toNat_of_ofNat heq hzero
      omega
    · have hspans : ∀ s ∈ upperSpans, 'A'.toNat ≤ (s.first : Int) + s.shift := by decide +kernel
      have hcode := eq_toNat_of_ofNat (List.mem_singleton.mp h).symm hzero
      unfold CaseSpan.image at hcode
      split at hcode
      · rename_i s hs
        have hbound := hspans s (List.mem_of_find?_eq_some hs)
        have hcovers := List.find?_some hs
        simp only [CaseSpan.covers, Bool.and_eq_true, decide_eq_true_eq] at hcovers
        omega
      · omega

theorem not_mem_upper {s : String} {low : Char} (hlow : low.toNat < 'A'.toNat) (hzero : low ≠ '\x00')
    (h : low ∉ s.toList) : low ∉ (upper s).toList := by
  rw [upper, String.toList_ofList]
  intro hm
  obtain ⟨c, hc, himage⟩ := List.mem_flatMap.mp hm
  exact h (mem_upperChar hlow hzero himage ▸ hc)

end ApexConstants.Text

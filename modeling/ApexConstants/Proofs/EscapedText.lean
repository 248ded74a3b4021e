import ApexConstants.Proofs.StringLiterals
import Mathlib.Algebra.Ring.Parity

namespace ApexConstants.Apex

def backslashBefore (c : Char) (cs : List Char) : List Char :=
  cs.flatMap fun d => if d = c then ['\\', d] else [d]

theorem backslashBefore_append (c : Char) (cs ds : List Char) :
    backslashBefore c (cs ++ ds) = backslashBefore c cs ++ backslashBefore c ds :=
  List.flatMap_append

/-- The backslashes have to come first: those in front of apostrophes are not doubled. -/
theorem escapeChars_eq_passes (cs : List Char) :
    escapeChars cs = backslashBefore '\'' (backslashBefore '\\' cs) := by
  induction cs with
  | nil => rfl
  | cons c cs ih =>
    have hfirst : backslashBefore '\\' (c :: cs) =
        backslashBefore '\\' [c] ++ backslashBefore '\\' cs := backslashBefore_append _ [c] cs
    have hone : escapeChar c = backslashBefore '\'' (backslashBefore '\\' [c]) := by
      by_cases hbackslash : c = '\\'
      · subst hbackslash
        rfl
      · by_cases hquote : c = '\''
        · subst hquote
          rfl
        · simp [escapeChar, backslashBefore, hbackslash, hquote]
    rw [escapeChars_cons, hfirst, backslashBefore_append, ← hone, ih]

example : backslashBefore '\\' (backslashBefore '\'' ['\'']) ≠ escapeChars ['\''] := by decide

inductive Piece
  | plain (c : Char)
  | pair (c : Char)

def Piece.char : Piece → Char
  | plain c => c
  | pair c => c

/-- The pieces of a text. A backslash stands for the character behind it, and for nothing at the
end. -/
def readPieces : List Char → Option (List Piece)
  | [] => some []
  | '\\' :: [] => none
  | '\\' :: c :: rest => (readPieces rest).map (.pair c :: ·)
  | c :: rest => (readPieces rest).map (.plain c :: ·)

def pieceOf (c : Char) : Piece := if c == '\\' || c == '\'' then .pair c else .plain c

theorem char_pieceOf (c : Char) : (pieceOf c).char = c := by
  unfold pieceOf
  split <;> rfl

theorem readPieces_escapeChar (c : Char) (cs : List Char) :
    readPieces (escapeChar c ++ cs) = (readPieces cs).map (pieceOf c :: ·) := by
  cases hc : (c == '\\' || c == '\'') with
  | true => simp [escapeChar, pieceOf, hc, readPieces]
  | false =>
    simp only [escapeChar, pieceOf, hc, Bool.false_eq_true, if_false, List.singleton_append]
    simp only [Bool.or_eq_false_iff, beq_eq_false_iff_ne] at hc
    simp [readPieces, hc.1]

theorem readPieces_escapeChars (cs : List Char) :
    readPieces (escapeChars cs) = some (cs.map pieceOf) := by
  induction cs with
  | nil => rfl
  | cons c cs ih =>
    rw [escapeChars_cons, readPieces_escapeChar, ih]
    rfl

/-- Only backslashes and apostrophes come to stand behind a backslash. -/
theorem eq_of_pair_mem {cs : List Char} {c : Char} (h : .pair c ∈ cs.map pieceOf) :
    c = '\\' ∨ c = '\'' := by
  obtain ⟨d, _, hd⟩ := List.mem_map.mp h
  unfold pieceOf at hd
  split at hd
  · rename_i hspecial
    cases hd
    simpa using hspecial
  · cases hd

def backslashesAtEnd (cs : List Char) : Nat := (cs.reverse.takeWhile (· == '\\')).length

theorem backslashesAtEnd_backslash (cs : List Char) :
    backslashesAtEnd (cs ++ ['\\']) = backslashesAtEnd cs + 1 := by
  simp [backslashesAtEnd]

theorem backslashesAtEnd_of_ne {c : Char} (h : c ≠ '\\') (cs : List Char) :
    backslashesAtEnd (cs ++ [c]) = 0 := by
  simp [backslashesAtEnd, h]

/-- An escaped text ends in whole pairs of backslashes. -/
theorem even_backslashes_escapeChars (cs : List Char) :
    Even (backslashesAtEnd (escapeChars cs)) := by
  induction cs using List.reverseRecOn with
  | nil => exact Even.zero
  | append_singleton cs c ih =>
    rw [escapeChars_append, escapeChars_singleton, escapeChar]
    split
    · rw [List.append_cons]
      by_cases hc : c = '\\'
      · subst hc
        rw [backslashesAtEnd_backslash, backslashesAtEnd_backslash, Nat.add_assoc]
        exact ih.add even_two
      · rw [backslashesAtEnd_of_ne hc]
        exact Even.zero
    · rename_i hplain
      have hc : c ≠ '\\' := by
        intro heq
        simp [heq] at hplain
      rw [backslashesAtEnd_of_ne hc]
      exact Even.zero

/-- In front of an apostrophe in an escaped text stands an escaped text and then one backslash. -/
theorem split_at_quote {cs front back : List Char} (h : escapeChars cs = front ++ '\'' :: back) :
    ∃ before, front = escapeChars before ++ ['\\'] := by
  induction cs generalizing front with
  | nil => cases front <;> cases h
  | cons c cs ih =>
    rw [escapeChars_cons] at h
    have hgo : ∀ more, front = escapeChar c ++ more → escapeChars cs = more ++ '\'' :: back →
        ∃ before, front = escapeChars before ++ ['\\'] := by
      intro more hfront hmore
      obtain ⟨before, hbefore⟩ := ih hmore
      exact ⟨c :: before, by rw [hfront, hbefore, escapeChars_cons, List.append_assoc]⟩
    unfold escapeChar at h hgo
    split at h
    · rename_i hspecial
      rw [if_pos hspecial] at hgo
      match front, h with
      | [], h => cases h
      | [d], h =>
        cases h
        exact ⟨[], rfl⟩
      | d :: e :: more, h =>
        simp only [List.cons_append, List.nil_append, List.cons.injEq] at h
        obtain ⟨rfl, rfl, hmore⟩ := h
        exact hgo more rfl hmore
    · rename_i hplain
      rw [if_neg hplain] at hgo
      match front, h with
      | [], h =>
        cases h
        exact absurd rfl hplain
      | d :: more, h =>
        simp only [List.cons_append, List.nil_append, List.cons.injEq] at h
        obtain ⟨rfl, hmore⟩ := h
        exact hgo more rfl hmore

theorem odd_backslashes_before_quote {cs front back : List Char}
    (h : escapeChars cs = front ++ '\'' :: back) : Odd (backslashesAtEnd front) := by
  obtain ⟨before, rfl⟩ := split_at_quote h
  rw [backslashesAtEnd_backslash]
  exact (even_backslashes_escapeChars before).add_one

/-- What stands in a literal can be read back. -/
structure ReadsBack (text : String) : Prop where
  /-- Two passes have escaped it, the one for backslashes before the one for apostrophes. -/
  passes : (escape text).toList = backslashBefore '\'' (backslashBefore '\\' text.toList)
  /-- It is read as the text, and all pairs in it are of a backslash or of an apostrophe. -/
  pieces : ∃ pieces, readPieces (escape text).toList = some pieces ∧
    pieces.map Piece.char = text.toList ∧ ∀ c, .pair c ∈ pieces → c = '\\' ∨ c = '\''
  /-- In front of each apostrophe stands an odd number of backslashes. -/
  quotes : ∀ front back, (escape text).toList = front ++ '\'' :: back →
    Odd (backslashesAtEnd front)
  /-- At the end stands an even number of them, so that the apostrophe behind it stands alone. -/
  ends : Even (backslashesAtEnd (escape text).toList)
  /-- With that apostrophe the literal ends, whatever follows. -/
  closes : ∀ rest : String,
    readLiteral (escape text ++ "'" ++ rest).toList = some (text.toList, rest.toList)

/-- Every text can be read back from a literal. -/
theorem escape_reads_back (text : String) : ReadsBack text := by
  have hescape : (escape text).toList = escapeChars text.toList := String.toList_ofList
  refine ⟨?_, ?_, ?_, ?_, ?_⟩
  · rw [hescape]
    exact escapeChars_eq_passes text.toList
  · refine ⟨text.toList.map pieceOf, ?_, ?_, fun c hc => eq_of_pair_mem hc⟩
    · rw [hescape]
      exact readPieces_escapeChars text.toList
    · rw [List.map_map]
      exact List.map_id'' char_pieceOf text.toList
  · intro front back h
    rw [hescape] at h
    exact odd_backslashes_before_quote h
  · rw [hescape]
    exact even_backslashes_escapeChars text.toList
  · intro rest
    have hquote : "'".toList = ['\''] := rfl
    rw [String.toList_append, String.toList_append, hescape, hquote, List.append_assoc]
    exact readLiteral_escapeChars text.toList rest.toList

end ApexConstants.Apex

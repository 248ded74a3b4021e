import ApexConstants.Console.EmojiTable
import ApexConstants.Text

namespace ApexConstants.Console

def emojiNames : List (String × String) :=
  (emojiLines.flatMap (Text.pieces ' ')).filterMap fun entry =>
    match Text.pieces '=' entry with
    | [name, picture] => some (name, picture)
    | _ => none

def pictureNamed? (name : List Char) : Option String :=
  emojiNames.lookup (Text.lower (String.ofList name))

def variants : List (List Char × Char) :=
  [("-emoji".toList, '\uFE0F'), ("-text".toList, '\uFE0E')]

def picture? (code : List Char) : Option (List Char) :=
  match variants.find? fun (ending, _) => ending.isSuffixOf code with
  | some (ending, selector) =>
    (pictureNamed? (code.take (code.length - ending.length))).map (·.toList ++ [selector])
  | none => (pictureNamed? code).map String.toList

def inCode (c : Char) : Bool := c != ':' && !Text.isBlank c

/-- The characters with pictures in the place of their names. What names no picture stays, and its
second colon opens no other name. -/
def withPictures : List Char → List Char
  | [] => []
  | c :: rest =>
    if c == ':' then
      match _h : rest.dropWhile inCode with
      | ':' :: after =>
        let code := rest.takeWhile inCode
        (picture? code).getD (':' :: code ++ [':']) ++ withPictures after
      | _ => c :: withPictures rest
    else c :: withPictures rest
termination_by cs => cs.length
decreasing_by
  · have := (List.dropWhile_suffix inCode (l := rest)).length_le
    simp [_h] at this
    simp
    omega
  all_goals simp

inductive MarkupPiece
  | plain (text : List Char)
  | tag (name : List Char)
deriving DecidableEq, Repr

def startsTag (c : Char) : Bool := ('a' ≤ c && c ≤ 'z') || c == '#' || c == '/' || c == '@'

def inTag (c : Char) : Bool := c != '[' && c != ']'

def tag? : List Char → Option (List Char × List Char)
  | '[' :: c :: rest =>
    if startsTag c then
      match rest.dropWhile inTag with
      | ']' :: after => some (c :: rest.takeWhile inTag, after)
      | _ => none
    else none
  | _ => none

theorem length_after_tag {cs name after : List Char} (h : tag? cs = some (name, after)) :
    after.length < cs.length := by
  unfold tag? at h
  split at h
  · rename_i c rest
    split at h
    · split at h
      · rename_i heq
        have := (List.dropWhile_suffix inTag (l := rest)).length_le
        simp [heq] at this
        simp at h
        obtain ⟨_, rfl⟩ := h
        simp
        omega
      · simp at h
    · simp at h
  · simp at h

def plainPiece (text : List Char) : List MarkupPiece := if text.isEmpty then [] else [.plain text]

/-- The pieces of marked up text; `before` holds the text so far backwards. -/
def piecesFrom (before cs : List Char) : List MarkupPiece :=
  let slashes := cs.takeWhile (· == '\\')
  match _h : tag? (cs.dropWhile (· == '\\')) with
  | some (name, after) =>
    plainPiece before.reverse ++ plainPiece (List.replicate (slashes.length / 2) '\\') ++
      (if slashes.length % 2 == 1 then .plain ('[' :: name ++ [']']) else .tag name) ::
        piecesFrom [] after
  | none =>
    match _h : cs.dropWhile (· == '\\') with
    | [] => plainPiece (slashes ++ before).reverse
    | c :: rest => piecesFrom (c :: (slashes ++ before)) rest
termination_by cs.length
decreasing_by
  · have := (List.dropWhile_suffix (· == '\\') (l := cs)).length_le
    have := length_after_tag _h
    omega
  · have := (List.dropWhile_suffix (· == '\\') (l := cs)).length_le
    simp [_h] at this
    omega

def unescape : List Char → List Char
  | '\\' :: '[' :: rest => '[' :: unescape rest
  | c :: rest => c :: unescape rest
  | [] => []

def isCursorControl (c : Char) : Bool := [7, 8, 11, 12, 13].contains c.toNat

def shown (text : List Char) : List Char :=
  (withPictures (unescape text)).filter fun c => !isCursorControl c

def styleNames : List (String × String) :=
  [("b", "bold"), ("d", "dim"), ("i", "italic"), ("u", "underline"), ("uu", "underline2"),
    ("r", "reverse"), ("c", "conceal"), ("s", "strike"), ("o", "overline")]

def styleOf (tag : List Char) : String :=
  let name := Text.lower (Text.trim (String.ofList (tag.takeWhile (· != '='))))
  (styleNames.lookup name).getD name

/-- The styles that are open after a tag, the last one first, unless it closes what is not open. -/
def openAfter? (styles : List String) (tag : List Char) : Option (List String) :=
  match tag with
  | '/' :: name =>
    let style := styleOf name
    if style.isEmpty then
      match styles with
      | [] => none
      | _ :: rest => some rest
    else if styles.contains style then some (styles.erase style) else none
  | _ => some (styleOf tag :: styles)

def shownPieces? (styles : List String) : List MarkupPiece → Option (List Char)
  | [] => some []
  | .plain text :: rest => (shownPieces? styles rest).map (shown text ++ ·)
  | .tag tag :: rest => do shownPieces? (← openAfter? styles tag) rest

def shownText? (markup : String) : Option String :=
  (shownPieces? [] (piecesFrom [] markup.toList)).map String.ofList

end ApexConstants.Console

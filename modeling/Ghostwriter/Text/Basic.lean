/-!
Text as a list of characters: blank characters, trimming, and the split into lines. A line ends
with its line feed; a carriage return is an ordinary character here, except for `unifyBreaks`.
-/

namespace Ghostwriter

abbrev Text := List Char

-- What is said of each character in a text is decided over the text, not over all characters.
instance (priority := 1100) decidableForallMem {α : Type} (p : α → Prop) [DecidablePred p]
    (l : List α) : Decidable (∀ x ∈ l, p x) := List.decidableBAll p l

namespace Text

-- The characters that count as white space in a text: the blanks of the ASCII range, the four
-- separators U+001C to U+001F, and the Unicode spaces and breaks.
def isBlank (c : Char) : Bool :=
  let n := c.toNat
  (9 ≤ n && n ≤ 13) || (28 ≤ n && n ≤ 32) || n == 0x85 || n == 0xA0 || n == 0x1680 ||
    (0x2000 ≤ n && n ≤ 0x200A) || n == 0x2028 || n == 0x2029 || n == 0x202F || n == 0x205F ||
    n == 0x3000

def trimLeft (t : Text) : Text := t.dropWhile isBlank

-- Drops the longest suffix whose characters all satisfy `p`.
def dropRightWhile (p : Char → Bool) : Text → Text
  | [] => []
  | c :: rest =>
    match dropRightWhile p rest with
    | [] => if p c then [] else [c]
    | kept => c :: kept

theorem dropRightWhile_concat {p : Char → Bool} {c : Char} (t : Text) (h : p c = true) :
    dropRightWhile p (t ++ [c]) = dropRightWhile p t := by
  induction t with
  | nil => simp [dropRightWhile, h]
  | cons d t ih => simp only [List.cons_append, dropRightWhile, ih]

theorem dropRightWhile_of_all {p : Char → Bool} {t : Text} (h : ∀ c ∈ t, p c = true) :
    dropRightWhile p t = [] := by
  induction t with
  | nil => rfl
  | cons c t ih =>
    rw [List.forall_mem_cons] at h
    simp [dropRightWhile, ih h.2, h.1]

theorem dropRightWhile_of_getLast? {p : Char → Bool} {t : Text}
    (h : ∀ c, t.getLast? = some c → p c = false) : dropRightWhile p t = t := by
  induction t with
  | nil => rfl
  | cons c rest ih =>
    cases rest with
    | nil => simp [dropRightWhile, h c rfl]
    | cons d rest =>
      have hrest := ih fun e he => h e (by rw [List.getLast?_cons_cons, he])
      rw [dropRightWhile, hrest]

def trimRight (t : Text) : Text := dropRightWhile isBlank t

def isBlankLine (line : Text) : Bool := line.all isBlank

-- The lines of a text, each with its line feed. Only the last one may lack it, and it is never
-- empty.
def lines : Text → List Text
  | [] => []
  | c :: rest =>
    if c = '\n' then [c] :: lines rest
    else
      match lines rest with
      | [] => [[c]]
      | first :: others => (c :: first) :: others

-- The pieces between the items that satisfy `p`: always one more than there are such items.
def splitWhere {α : Type} (p : α → Bool) : List α → List (List α)
  | [] => [[]]
  | c :: rest =>
    match splitWhere p rest with
    | [] => [[c]]
    | first :: others => if p c then [] :: first :: others else (c :: first) :: others

-- The pieces between the line feeds.
def pieces (t : Text) : List Text := splitWhere (· = '\n') t

-- Puts `sep` between neighbours.
def joinWith (sep : Text) : List Text → Text
  | [] => []
  | [t] => t
  | t :: rest => t ++ sep ++ joinWith sep rest

-- Both the pair carriage return, line feed and the lone carriage return become a line feed.
def unifyBreaks : Text → Text
  | [] => []
  | '\r' :: '\n' :: rest => '\n' :: unifyBreaks rest
  | c :: rest => (if c = '\r' then '\n' else c) :: unifyBreaks rest

-- The ASCII letters in the other case.
def lowerAscii (c : Char) : Char :=
  if 'A' ≤ c && c ≤ 'Z' then Char.ofNat (c.toNat + 32) else c

def upperAscii (c : Char) : Char :=
  if 'a' ≤ c && c ≤ 'z' then Char.ofNat (c.toNat - 32) else c

def decimal (n : Nat) : Text := Nat.toDigits 10 n

theorem unifyBreaks_cons {c : Char} (rest : Text) (h : c ≠ '\r') :
    unifyBreaks (c :: rest) = c :: unifyBreaks rest := by
  rw [unifyBreaks, if_neg h]
  rintro _ rfl
  exact absurd rfl h

theorem lines_flatten (t : Text) : (lines t).flatten = t := by
  induction t with
  | nil => rfl
  | cons c rest ih =>
    unfold lines
    split
    · simp [ih]
    · split
      case h_1 h =>
        rw [h] at ih
        simpa using ih
      case h_2 first others h =>
        rw [h] at ih
        simp only [List.flatten_cons] at ih ⊢
        simp [ih]

theorem joinWith_pieces (t : Text) : joinWith ['\n'] (pieces t) = t := by
  unfold pieces
  induction t with
  | nil => rfl
  | cons c rest ih =>
    unfold splitWhere
    split
    case h_1 h =>
      rw [h] at ih
      simp [joinWith, ← ih]
    case h_2 first others h =>
      rw [h] at ih
      split
      case isTrue hc => simp [joinWith, of_decide_eq_true hc, ih]
      case isFalse => cases others <;> simp_all [joinWith]

end Text

end Ghostwriter

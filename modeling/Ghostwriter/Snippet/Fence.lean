import Ghostwriter.Text.Basic

/-!
Fences: code in a text that is marked by lines of three backticks.
-/

namespace Ghostwriter.Fence

open Ghostwriter.Text

def mark : Text := ['\x60', '\x60', '\x60']

-- The words that may stand behind the opening mark.
def tags : List Text := ["python3", "python", "py", ""].map String.toList

-- What follows a tag, blanks and a line end.
def afterTag? (t tag : Text) : Option Text :=
  if tag.isPrefixOf t then
    match (t.drop tag.length).dropWhile (fun c => c = ' ' || c = '\t') with
    | '\n' :: rest => some rest
    | _ => none
  else none

-- What follows an opening mark with its line, at the head of a text.
def afterOpening? (t : Text) : Option Text :=
  if mark.isPrefixOf t then tags.findSome? (afterTag? (t.drop mark.length)) else none

-- The text up to the next mark, and what follows that.
def upToMark? : Text → Option (Text × Text)
  | [] => none
  | c :: rest =>
    if mark.isPrefixOf (c :: rest) then some ([], (c :: rest).drop mark.length)
    else (upToMark? rest).map fun (block, after) => (c :: block, after)

-- The block at the head of a text, and what follows it.
def block? (t : Text) : Option (Text × Text) := (afterOpening? t).bind upToMark?

-- All blocks, from left to right. The first argument bounds the number of characters.
def blocksUpTo : Nat → Text → List Text
  | _, [] => []
  | 0, _ => []
  | fuel + 1, c :: rest =>
    match block? (c :: rest) with
    | some (block, after) => block :: blocksUpTo fuel after
    | none => blocksUpTo fuel rest

def blocks (t : Text) : List Text := blocksUpTo t.length t

-- A block ends in exactly one line end.
def settleEnd (block : Text) : Text := dropRightWhile (· = '\n') block ++ ['\n']

-- The blocks with an empty line between neighbours. A text without blocks stays as it is.
def unwrap (t : Text) : Text :=
  match blocks t with
  | [] => t
  | found => joinWith ['\n'] (found.map settleEnd)

end Ghostwriter.Fence

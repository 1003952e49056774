import UiHarness.Syntax.Node
import UiHarness.Text.Bytes

/-!
# Drafts

A draft is a source file together with texts that are to be inserted into it.  The file itself
never changes while insertions are collected: their offsets all count the bytes of the file as it
was read, negative ones from its end.  Insertions at the same offset stand in the order in which
they were made.
-/

namespace UiHarness.Syntax

/-- A text to be inserted before the byte at an offset. -/
structure Insertion where
  offset : Int
  text : Text
  deriving DecidableEq, Repr

/-- A source file and the insertions made so far. -/
structure Draft where
  /-- The file. -/
  nodes : List Node
  /-- The insertions, in the order in which they were made. -/
  insertions : List Insertion := []

namespace Draft

/-- The text of the file. -/
def source (d : Draft) : Text := Node.textOf d.nodes

/-- Whether anything is to be inserted. -/
def isModified (d : Draft) : Bool := !d.insertions.isEmpty

/-- A draft with one more insertion. -/
def insert (d : Draft) (offset : Int) (text : Text) : Draft :=
  { d with insertions := d.insertions ++ [⟨offset, text⟩] }

/-- The texts to be inserted at an offset. -/
def textsAt (d : Draft) (offset : Int) : List Text :=
  (d.insertions.filter (·.offset = offset)).map Insertion.text

/-- Puts an insertion behind those of the same or a smaller offset. -/
def place (i : Insertion) : List Insertion → List Insertion
  | [] => [i]
  | j :: js => if j.offset ≤ i.offset then j :: place i js else i :: j :: js

/-- The insertions by increasing offset, those at one offset in the order in which they were
made. -/
def ordered (is : List Insertion) : List Insertion := is.foldl (fun js i => place i js) []

/-- The number of bytes before an offset in a file of a size. -/
def position (size : Nat) (offset : Int) : Nat :=
  if offset < 0 then (size + offset).toNat else min offset.toNat size

/-- The bytes of a file from a place on with ordered insertions.  An insertion at an earlier place
leads back to this place. -/
def merge (bytes : List UInt8) (start : Nat) : List Insertion → List UInt8
  | [] => bytes.drop start
  | i :: is =>
    let place := position bytes.length i.offset
    (bytes.take place).drop start ++ (Text.encode i.text).data.toList ++ merge bytes place is

/-- The text of the file with the insertions made.  An insertion inside a character gives bytes
that are no text. -/
def text (d : Draft) : Except Text.Undecodable Text :=
  if d.isModified then
    Text.decode ⟨(merge (Text.encode d.source).data.toList 0 (ordered d.insertions)).toArray⟩
  else .ok d.source

@[simp] theorem insertions_insert (d : Draft) (offset : Int) (text : Text) :
    (d.insert offset text).insertions = d.insertions ++ [⟨offset, text⟩] := rfl

@[simp] theorem nodes_insert (d : Draft) (offset : Int) (text : Text) :
    (d.insert offset text).nodes = d.nodes := rfl

end Draft

end UiHarness.Syntax

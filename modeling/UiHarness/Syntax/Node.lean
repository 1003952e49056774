import UiHarness.Imports.Binding

/-!
# Source files as trees

A source file is read into a list of nodes.  Only what the tool works on gets a node of its own:
an import statement at the top of the file, a markup element, and an attribute of an element.
Everything between is kept as tokens, with the blanks and comments in front of them.  No character
is dropped, so `Node.textOf` of the nodes is the file again, and positions need not be stored:
they are sums of sizes.

* `TagName`: the name in an element's opening tag.
* `Node`: the pieces of a file.
* `Node.text`, `Node.textOf`: the text that nodes stand for.
* `Node.size`, `Node.sizeOf`: its number of bytes.
-/

namespace UiHarness.Syntax

/-- The name in an opening tag.  An object and its property keep what stands between them: the
dot, with any blanks and comments around it. -/
inductive TagName
  /-- A plain name such as `Box` or `my-element`. -/
  | simple (name : Text)
  /-- A component in an object, such as `Chart.Legend`. -/
  | member (object between property : Text)
  /-- A longer member name or a name with a namespace; it names no component of its own. -/
  | other (text : Text)
  deriving DecidableEq, Repr

namespace TagName

/-- The name as it is written. -/
def text : TagName → Text
  | simple name => name
  | member object between property => object ++ between ++ property
  | other text => text

/-- The component that the name refers to: a plain name itself, an object and its property joined
by a dot.  Longer names refer to none. -/
def component? : TagName → Option Text
  | simple name => some name
  | member object _ property => some (object ++ '.' :: property)
  | other _ => none

end TagName

/-- A piece of a source file. -/
inductive Node
  /-- A token, with the blanks and comments before it. -/
  | token (text : Text)
  /-- An import statement and the names it binds. -/
  | importStatement (text : Text) (bindings : List Binding)
  /-- An attribute of an element: its name, what stands from there to the value, and the value,
  which is a quoted string or any other code. -/
  | attr (name link : Text) (quoted : Option Text) (code : List Node)
  /-- An element: what stands between the angle and the name, the name (a fragment has none), the
  type arguments with what stands before them, the attributes with all else up to the end of the
  opening tag, and, unless the tag closes itself, the content and the closing tag. -/
  | element (lead : Text) (name : Option TagName) (types attributes content : List Node)
      (closing : Option Text)

namespace Node

/-! ## 1.  Text -/

/-- The end of an opening tag: it closes itself if there is no closing tag. -/
def tagEnd : Option Text → Text
  | none => ['/', '>']
  | some _ => ['>']

@[simp] theorem tagEnd_none : tagEnd none = ['/', '>'] := rfl

@[simp] theorem tagEnd_some (closing : Text) : tagEnd (some closing) = ['>'] := rfl

mutual

/-- The text that a node stands for. -/
def text : Node → Text
  | token t => t
  | importStatement t _ => t
  | attr name link quoted code => name ++ link ++ quoted.getD [] ++ textOf code
  | element lead name types attributes content closing =>
    '<' :: lead ++ (name.map TagName.text).getD [] ++ textOf types ++ textOf attributes ++
      tagEnd closing ++ textOf content ++ closing.getD []

/-- The text that a list of nodes stands for. -/
def textOf : List Node → Text
  | [] => []
  | n :: ns => text n ++ textOf ns

end

@[simp] theorem textOf_nil : textOf [] = [] := by simp [textOf]

@[simp] theorem textOf_cons (n : Node) (ns : List Node) :
    textOf (n :: ns) = n.text ++ textOf ns := by simp [textOf]

@[simp] theorem textOf_append (ns ms : List Node) :
    textOf (ns ++ ms) = textOf ns ++ textOf ms := by
  induction ns with
  | nil => simp
  | cons n ns ih => simp [ih]

@[simp] theorem text_token (t : Text) : (token t).text = t := by simp [text]

@[simp] theorem text_importStatement (t : Text) (bs : List Binding) :
    (importStatement t bs).text = t := by simp [text]

@[simp] theorem text_attr (name link : Text) (quoted : Option Text) (code : List Node) :
    (attr name link quoted code).text = name ++ link ++ quoted.getD [] ++ textOf code := by
  simp [text]

@[simp] theorem text_element (lead : Text) (name : Option TagName)
    (types attributes content : List Node) (closing : Option Text) :
    (element lead name types attributes content closing).text =
      '<' :: lead ++ (name.map TagName.text).getD [] ++ textOf types ++ textOf attributes ++
        tagEnd closing ++ textOf content ++ closing.getD [] := by
  simp [text]

/-- Blanks and comments as a node, if there are any. -/
def blank (blanks : Text) : List Node := if blanks.isEmpty then [] else [.token blanks]

@[simp] theorem textOf_blank (t : Text) : textOf (blank t) = t := by
  cases t with
  | nil => rfl
  | cons c t => simp [blank]

/-! ## 2.  Sizes -/

/-- The number of bytes of a node. -/
def size (n : Node) : Nat := n.text.byteSize

/-- The number of bytes of a list of nodes. -/
def sizeOf (ns : List Node) : Nat := (textOf ns).byteSize

end Node

end UiHarness.Syntax

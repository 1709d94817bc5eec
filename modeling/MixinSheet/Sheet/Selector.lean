import MixinSheet.Source.Span

/-!
# Selectors

A selector is a list of elements, each joined to the one before it by a combinator. The selectors of
a nested ruleset are composed with those of the rulesets around it: every selector outside is
followed by every selector inside.
-/

namespace MixinSheet

/-- How an element is joined to the one before it. -/
inductive Combinator where
  | descendant
  | child
  | adjacent
  | sibling
  /-- Joined without a gap, as in `a:hover`. -/
  | attached
  deriving DecidableEq, Repr

/-- The text between two elements. -/
def Combinator.text : Combinator → String
  | .descendant => " "
  | .child => " > "
  | .adjacent => " + "
  | .sibling => " ~ "
  | .attached => ""

/-- The text in front of the first element. -/
def Combinator.leadingText : Combinator → String
  | .descendant | .attached => ""
  | .child => "> "
  | .adjacent => "+ "
  | .sibling => "~ "

/-- A simple selector and how it is joined to what precedes it. -/
structure Element where
  combinator : Combinator
  value : String
  deriving DecidableEq, Repr

namespace Element

/-- The text of elements that follow another one. -/
def followingText : List Element → String
  | [] => ""
  | element :: rest => element.combinator.text ++ element.value ++ followingText rest

/-- The text of a list of elements. -/
def listText : List Element → String
  | [] => ""
  | first :: rest => first.combinator.leadingText ++ first.value ++ followingText rest

end Element

/-- A selector together with the part of the source it was read from. -/
structure Selector where
  elements : List Element
  span : Span
  deriving DecidableEq, Repr

namespace Selector

/-- The selector in normal form. -/
def text (selector : Selector) : String :=
  Element.listText selector.elements

/-- Whether the selector is the one element `name`, so that a ruleset can be called by that name. -/
def isNamed (selector : Selector) (name : String) : Bool :=
  match selector.elements with
  | [only] => (only.combinator == .descendant || only.combinator == .child) && only.value == name
  | _ => false

/-- The selector `child` inside `parent`. -/
def under (parent child : Selector) : Selector :=
  { elements := parent.elements ++ child.elements, span := child.span }

/-- The selector `child` inside each of the selectors `parents`, or alone if there are none. -/
def nest (parents : List Selector) (child : Selector) : List Selector :=
  if parents.isEmpty then [child] else parents.map (·.under child)

/-- Each of `children` inside each of `parents`, parent by parent; the children alone if there are
no parents. -/
def nestAll (parents children : List Selector) : List Selector :=
  if parents.isEmpty then children
  else parents.flatMap fun parent => children.map parent.under

end Selector

end MixinSheet

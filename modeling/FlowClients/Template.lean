import FlowClients.Text.Blank

/-!
Templates: text with places for values, repeated parts and alternatives. Every tag of a repeated
part or an alternative may absorb the white space that the text before it ends with.
-/

namespace FlowClients

/-- What a tag does to the text before it. -/
inductive Tag
  | plain
  /-- Absorb the white space before the tag. -/
  | trimming
deriving DecidableEq

/-- A template over values of type `α`: its first part and what follows it. -/
inductive Template : Type → Type 1
  | done {α : Type} : Template α
  | text {α : Type} (content : String) (rest : Template α) : Template α
  | value {α : Type} (get : α → String) (rest : Template α) : Template α
  /-- The body once for every item, between an opening and a closing tag. -/
  | each {α β : Type} (opening : Tag) (items : α → List β) (body : Template β) (closing : Tag)
      (rest : Template α) : Template α
  /-- One of two bodies, with a tag before, between and after them. -/
  | choose {α : Type} (opening : Tag) (test : α → Bool) (yes : Template α) (middle : Tag)
      (no : Template α) (closing : Tag) (rest : Template α) : Template α

namespace Template

/-- The tag that directly follows a text before this template, if `ending` follows the template. -/
def leadingTag {α : Type} (ending : Tag) : Template α → Tag
  | .done => ending
  | .text .. | .value .. => .plain
  | .each opening .. => opening
  | .choose opening .. => opening

def absorb (tag : Tag) (content : String) : String :=
  match tag with
  | .plain => content
  | .trimming => String.ofList (Text.trimRight content.toList)

/-- Write a template that is followed by the tag `ending`. Values are inserted as they are. -/
def render {α : Type} (ending : Tag) : Template α → α → String
  | .done, _ => ""
  | .text content rest, a => absorb (rest.leadingTag ending) content ++ rest.render ending a
  | .value get rest, a => get a ++ rest.render ending a
  | .each _ items body closing rest, a =>
    String.join ((items a).map (body.render closing)) ++ rest.render ending a
  | .choose _ test yes middle no closing rest, a =>
    (if test a then yes.render middle a else no.render closing a) ++ rest.render ending a

end Template

end FlowClients

import AssistantUI.Definition.Basic
import AssistantUI.Json.Display
import AssistantUI.Json.Writer

/-!
# Values as content

Whoever builds a definition may give plain values as children. Texts and numbers stand
for themselves, null and the truth values show nothing, lists nest, and an object is shown
as its JSON text: a value that came from outside never turns into a node.
-/

namespace AssistantUI

mutual

/-- A plain value as content. -/
def Content.ofJson (j : Json) : Content :=
  match j with
  | .null => .empty
  | .bool _ => .empty
  | .int n => .text (Json.display (.int n))
  | .float x => .text (Json.display (.float x))
  | .str s => .text s
  | .arr items => .many (Content.ofJsonList items)
  | .obj members => .text (Json.write .line (.obj members))

/-- A list of plain values, one by one. -/
def Content.ofJsonList (items : List Json) : List Content :=
  match items with
  | [] => []
  | j :: rest => Content.ofJson j :: Content.ofJsonList rest

end

/-- What a tag is given as its children: nothing, one content or several. -/
def Content.ofChildren : List Content → Content
  | [] => .empty
  | [c] => c
  | cs => .many cs

/-- The node that a tag makes of props, children, events and bindings. -/
def Node.make (type : String) (props : Dict String Json) (children : List Content)
    (events : Dict String EventDescriptor) (bindings : Dict String String) : Node :=
  ⟨type, props, Content.ofChildren children, events, bindings⟩

end AssistantUI

/-! # Elements

An element has a name, attributes in the order of the document and child elements; text is not kept.

* `attr?`, `child?`: the first attribute or direct child with a name.
* `descendants`: the element and all elements inside it, in the order of their start tags.
* `findAll`: those with a given name.
-/

namespace VirtHost.Xml
set_option autoImplicit false

inductive Node
  | mk (name : String) (attributes : List (String × String)) (children : List Node)

namespace Node

def name : Node → String
  | mk name _ _ => name

def attributes : Node → List (String × String)
  | mk _ attributes _ => attributes

def children : Node → List Node
  | mk _ _ children => children

/-- The value of the first attribute called `key`. -/
def attr? (n : Node) (key : String) : Option String :=
  (n.attributes.find? (·.1 = key)).map (·.2)

/-- The first direct child called `name`. -/
def child? (n : Node) (name : String) : Option Node :=
  n.children.find? (·.name = name)

mutual

/-- The element and all elements inside it, each before those inside it. -/
def descendants : Node → List Node
  | mk name attributes children => mk name attributes children :: descendantsOfAll children

def descendantsOfAll : List Node → List Node
  | [] => []
  | n :: rest => descendants n ++ descendantsOfAll rest

end

/-- The element and all elements inside it that are called `name`. -/
def findAll (n : Node) (name : String) : List Node :=
  n.descendants.filter (·.name = name)

end Node
end VirtHost.Xml

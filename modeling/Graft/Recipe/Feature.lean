import Graft.Text.Blank
import Graft.Text.Case
import Graft.Text.Plural

/-! # Features

A feature of a web application is named by one text such as `Admin/order_item`.  From it come the
class stem (`OrderItem`), the namespaces of its classes and the path of its routes. -/

namespace Graft

/-! ## What to register -/

/-- The shape of a feature's controller. -/
inductive ControllerKind where
  | resource
  | invokable
  | basic
  deriving DecidableEq, Repr

/-- The registration points that a feature is woven into. -/
structure Weavings where
  seeder : Bool := false
  serviceBinding : Bool := false
  webRoutes : Bool := true
  apiRoutes : Bool := false
  policy : Bool := true
  deriving DecidableEq, Repr

/-- A feature to register. -/
structure Feature where
  /-- the class stem -/
  name : Text
  /-- the class stems of the folders that the name is under -/
  subNamespace : List Text
  kind : ControllerKind := .resource
  controllerNamespace : Text
  webRoutePath : Text
  weavings : Weavings := {}
  deriving DecidableEq, Repr

/-! ## Names -/

/-- Why a text names no feature. -/
inductive NameError where
  | empty
  | invalid (name : Text)
  deriving DecidableEq, Repr

/-- The message of an error. -/
def NameError.message : NameError → Text
  | empty => "feature name cannot be empty"
  | invalid name => "invalid feature name '" ++ name ++
      "': only letters, numbers, underscores and forward slashes are allowed"

/-- A character that a feature's name may go on with. -/
def isNameChar (c : Char) : Bool :=
  c.isAlphanum || c == '_' || c == '/'

/-- The namespace of controllers. -/
def controllerRoot : Text := "App\\Http\\Controllers"

/-- The namespace of services. -/
def serviceRoot : Text := "App\\Services"

/-- Namespace components with backslashes between them. -/
def namespaced (components : List Text) : Text :=
  Text.joined "\\" components

namespace Feature

/-- A name without the blanks around it, when it may name a feature: letters, digits, underscores
and slashes, with no digit in front. -/
def checkedName (raw : Text) : Except NameError Text :=
  match raw.trim with
  | [] => .error .empty
  | first :: rest =>
    if isNameChar first ∧ ¬first.isDigit ∧ rest.all isNameChar then .ok (first :: rest)
    else .error (.invalid (first :: rest))

/-- The feature of a name, with everything else as it is by default. -/
def ofName (raw : Text) : Except NameError Feature := do
  let checked ← checkedName raw
  let segments := checked.pieces (· == '/')
  let name := (segments.getLast?.getD []).upperCamel
  if name = [] then throw (.invalid checked)
  let folders := (segments.dropLast.filter (!·.isEmpty)).map Text.upperCamel
  return {
    name
    subNamespace := folders
    controllerNamespace := namespaced (controllerRoot :: folders)
    webRoutePath := name.kebab.plural }

/-- The feature with its controller in another namespace, in which slashes stand for backslashes. -/
def inNamespace (feature : Feature) (home : Text) : Feature :=
  { feature with controllerNamespace := home.replaceChar '/' '\\' }

/-- The name of the controller's class. -/
def controller (feature : Feature) : Text :=
  feature.name ++ "Controller"

/-- The name in lower case with hyphens. -/
def kebabName (feature : Feature) : Text :=
  feature.name.kebab

/-- The namespace of the services, under which the folders of the controllers come again. -/
def serviceNamespace (feature : Feature) : Text :=
  match (controllerRoot ++ "\\").isPrefixOf? feature.controllerNamespace with
  | none | some [] => serviceRoot
  | some folders => namespaced (serviceRoot :: (Text.pieces (· == '\\') folders).map Text.upperCamel)

end Feature
end Graft

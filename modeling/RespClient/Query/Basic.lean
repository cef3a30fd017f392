import RespClient.Command
import RespClient.Shape.Basic

/-!
# Queries

A query is a command together with the shape of its result.
-/

namespace RespClient

/-- A command and the shape of its result. -/
structure Query where
  shape : Shape
  command : Command

/-- The query with the given name, arguments and result. -/
def Query.ofArgs (name : String) (args : List Argument) (shape : Shape) : Query :=
  ⟨shape, Command.ofArgs (Utf8.ofString name) args⟩

/-- A keyword with its value, if there is a value. -/
def Argument.option (keyword : String) (value : Option Argument) : Argument :=
  match value with
  | none => .missing
  | some value => .present (.tuple [.text keyword, value])

end RespClient

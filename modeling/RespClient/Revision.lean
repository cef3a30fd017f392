import RespClient.Reply.Limits

/-!
# Protocol revisions

A connection speaks one of two revisions. They share the wire format of requests,
and a decoder asks for the revision where replies of the two differ.
-/

namespace RespClient

/-- The revision that a connection speaks. -/
inductive Revision where
  | second
  | third
  deriving Repr, DecidableEq

instance : Inhabited Revision := ⟨.second⟩

/-- Is it the revision with maps, sets and doubles? -/
def Revision.isThird : Revision → Bool
  | .second => false
  | .third => true

/-- What a decoder of frames needs to know about its connection. -/
structure Config where
  revision : Revision := .second
  limits : Limits := {}
  deriving Repr, DecidableEq

end RespClient

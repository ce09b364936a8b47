import Storefront.Flow

/-! A server that answers from a list: each answer serves one request. -/
namespace Storefront

/-- An answer kept ready: for any request or only for one, at once or when a gate is open. -/
structure Reply where
  only : Option String := none
  gate : Option String := none
  answer : Answer

def Request.line (r : Request) : String := r.method.name ++ " " ++ String.ofList r.address.target

def Reply.serves (p : Reply) (r : Request) : Bool :=
  match p.only with
  | none => true
  | some line => line == r.line

def noReply : Reply where
  answer := .fault (.inl ⟨.network .connect, "no response scripted"⟩)

abbrev Server := List Reply

/-- The first reply that serves a request, and the replies that are left. -/
def Server.take (s : Server) (r : Request) : Reply × Server :=
  let before := s.takeWhile (!·.serves r)
  match s.drop before.length with
  | [] => (noReply, s)
  | reply :: rest => (reply, before ++ rest)

end Storefront

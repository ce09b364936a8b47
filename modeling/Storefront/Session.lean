import Storefront.Flow

/-! The sessions of a client. A client that is given a session keeps it; any other opens one when it
needs one, and closes it in two steps: the session takes no more requests from the first step on,
and the client forgets it in the second. -/
namespace Storefront

/-- How a session keeps cookies: what it adds to a request, by the responses that it has heard. -/
abbrev CookieKeeper := List Response → Request → Option String

/-- All sessions ever made, each open or closed, and the place of the one in use. -/
structure SessionPool where
  owned : Bool
  isOpen : List Bool
  current : Option Nat

namespace SessionPool

def given : SessionPool := ⟨false, [true], some 0⟩

def empty : SessionPool := ⟨true, [], none⟩

def touch (p : SessionPool) : SessionPool :=
  match p.current with
  | some _ => p
  | none => { p with isOpen := p.isOpen ++ [true], current := some p.isOpen.length }

def isUsable (p : SessionPool) : Bool := (p.current.bind (p.isOpen[·]?)).getD false

def view (p : SessionPool) : SessionView := ⟨p.current.getD 0, p.owned, !p.isUsable⟩

/-- Closes the session in use, if the client has opened it. -/
def beginClose (p : SessionPool) : SessionPool :=
  match p.owned, p.current with
  | true, some i => { p with isOpen := p.isOpen.set i false }
  | _, _ => p

/-- Forgets the session in use, if the client has opened it. -/
def finishClose (p : SessionPool) : SessionPool := if p.owned then { p with current := none } else p

def close (p : SessionPool) : SessionPool := p.beginClose.finishClose

end SessionPool

end Storefront

import Resilience.Cluster.Api
import Resilience.Json.Printer
import Resilience.Script
/-! # A server with prepared answers

For each method and target the answers are given one after another, the last one forever. Every
request is written down.
-/
namespace Resilience

structure Route where
  method : String
  target : String
  answer : Except String Response

structure Routes where
  scripts : List ((String × String) × Script (Except String Response)) := []
  requests : List Request := []

namespace Routes

def add (s : Routes) (r : Route) : Routes :=
  let key := (r.method, r.target)
  let script := (Dict.find? s.scripts key).getD []
  { s with scripts := (key, script ++ [r.answer]) :: Dict.erase s.scripts key }

def ofList (routes : List Route) : Routes := routes.foldl add {}

def unknown (r : Request) : Response :=
  ⟨404, (Json.object [("kind", .string "Status"), ("status", .string "Failure"),
    ("reason", .string "NotFound"), ("code", .nat 404),
    ("message", .string s!"no route {r.method.name} {r.target}")]).compact⟩

def exchange : Exchange Routes := fun r s =>
  let key := (r.method.name, r.target)
  let script := (Dict.find? s.scripts key).getD []
  let s := { s with requests := s.requests ++ [r] }
  match script.next? with
  | none => (.ok (unknown r), s)
  | some answer =>
    (answer, { s with scripts := (key, script.rest) :: Dict.erase s.scripts key })

/-- Every request is written down, whatever was prepared for it. -/
theorem requests_exchange (r : Request) (s : Routes) :
    (exchange r s).2.requests = s.requests ++ [r] := by
  simp only [exchange]
  split <;> rfl

def client : Client Routes := Api.client exchange

end Routes
end Resilience

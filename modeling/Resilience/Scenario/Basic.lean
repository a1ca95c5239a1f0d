import Resilience.Poll
import Resilience.Scenario.Error
/-! # Scenarios

A scenario runs on a cluster and a clock, and hands its result to a list of reports when it ends.
-/
namespace Resilience

structure ScenarioReport where
  scenario : String
  subject : String
  verdict : Verdict
  reason : String
deriving DecidableEq, Repr

def ScenarioReport.toJson (r : ScenarioReport) : Json :=
  .object [("scenario", .string r.scenario), ("subject", .string r.subject),
    ("verdict", .string r.verdict.name), ("reason", .string r.reason)]

structure Stage (σ : Type) where
  cluster : σ
  reports : List ScenarioReport := []

abbrev Scenario (σ : Type) := StateM (Timed (Stage σ))

namespace Scenario

variable {σ : Type}

/-- A call to the cluster. It takes no time. -/
def perform (client : Client σ) (c : Call) : Scenario σ (Except ClusterError c.Reply) := fun s =>
  let (reply, cluster) := client.perform c s.state.cluster
  (reply, { s with state := { s.state with cluster := cluster } })

def report (r : ScenarioReport) : Scenario σ Unit := fun s =>
  ((), { s with state := { s.state with reports := s.state.reports ++ [r] } })

end Scenario
end Resilience

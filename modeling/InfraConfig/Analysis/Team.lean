import InfraConfig.Analysis.Session

/-! Analyzers at work side by side. An analyzer that goes on under other settings leaves the one
that it comes from at work, and the two share what they remember, until one of them forgets: from
then on it keeps its sources in a place of its own. Turns are taken one after the other; each is
given a time, so that analyzers may go by clocks of their own. -/
namespace InfraConfig

/-- An analyzer of a team: its settings, and the places where its sources are kept. -/
structure Member where
  settings : Settings
  modulesAt : Nat
  providersAt : Nat
deriving Repr

/-- What one analyzer of a team is asked at a time. -/
structure Turn where
  member : Nat
  now : Nat
  action : Action

/-- Analyzers, and the sources that they remember, by place. -/
structure Team where
  members : List Member
  modules : Nat → ModuleSources
  providers : Nat → ProviderSources
  /-- A place that no member has yet; neither has any after it. -/
  free : Nat

namespace Team

/-- A team of one analyzer that remembers nothing. -/
def start (settings : Settings) : Team where
  members := [⟨settings, 0, 0⟩]
  modules := fun _ => .empty settings.moduleSourceTtl true
  providers := fun _ => .empty settings.providerSourceTtl true
  free := 1

/-- The analyzer that a member is. -/
def analyzer (t : Team) (m : Member) : Analyzer :=
  ⟨m.settings, t.modules m.modulesAt, t.providers m.providersAt⟩

/-- Where a member keeps its sources after an action. Sources that are forgotten stay where they
are, as others may share them. -/
def moved (t : Team) (m : Member) : Action → Member
  | .forget => { m with modulesAt := t.free, providersAt := t.free }
  | .forgetModules _ => { m with modulesAt := t.free }
  | .forgetProviders _ => { m with providersAt := t.free }
  | _ => m

/-- The members after an action of one of them. Who adopts settings is a new member. -/
def membersAfter (t : Team) (i : Nat) (m : Member) : Action → List Member
  | .adopt settings => t.members ++ [{ m with settings }]
  | action => t.members.set i (t.moved m action)

/-- The team with the sources of a member kept where they belong. -/
def keep (t : Team) (m : Member) (a : Analyzer) : Team :=
  { t with
    modules := fun place => if place = m.modulesAt then a.modules else t.modules place
    providers := fun place => if place = m.providersAt then a.providers else t.providers place }

/-- What the member whose turn it is answers, and the team afterwards. -/
def perform (t : Team) (turn : Turn) : Traced (Answer × Team) :=
  match t.members[turn.member]? with
  | none => pure (.nothing, t)
  | some m => do
    let (answer, s) ← Session.perform ⟨t.analyzer m, turn.now⟩ turn.action
    let kept := t.keep (t.moved m turn.action) s.analyzer
    return (answer, { kept with
      members := t.membersAfter turn.member m turn.action
      free := t.free + 1 })

/-- The answers to turns, one after the other. -/
def run (t : Team) : List Turn → Traced (List Answer)
  | [] => pure []
  | turn :: rest => do
    let (answer, t) ← t.perform turn
    return answer :: (← t.run rest)

end Team

end InfraConfig

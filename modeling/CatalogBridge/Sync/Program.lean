import CatalogBridge.Kubernetes.Cluster
import CatalogBridge.Metrics

/-!
# Programs over a cluster

A program that asks a cluster one thing after the other, and tells and counts as it goes. It is a
value: a stage is an answer, a thing told, or a request together with what is done with its
answer. So one and the same program can be run against any behaviour of the cluster (`run`), or be
held at a request for as long as the answer takes (`pause`).
-/

namespace CatalogBridge

/-- What a program does besides asking. -/
inductive Effect where
  | notice (notice : Notice)
  | measure (change : Measurement)

namespace Effect

/-- The notices among effects. -/
def notices : List Effect → List Notice
  | [] => []
  | .notice told :: rest => told :: notices rest
  | .measure _ :: rest => notices rest

/-- The changes of metrics among effects. -/
def measurements : List Effect → List Measurement
  | [] => []
  | .notice _ :: rest => measurements rest
  | .measure change :: rest => change :: measurements rest

@[simp] theorem measurements_append (front back : List Effect) :
    measurements (front ++ back) = measurements front ++ measurements back := by
  induction front with
  | nil => rfl
  | cons effect rest ih => cases effect <;> simp [measurements, ih]

end Effect

/-- A program over a cluster that ends with a value. -/
inductive Program (α : Type) where
  | done (value : α)
  | tell (effect : Effect) (next : Program α)
  | ask (call : ClusterCall) (next : Except Error call.Answer → Program α)

namespace Program

variable {α β σ : Type}

/-- One program after the other. -/
def bind : Program α → (α → Program β) → Program β
  | .done value, next => next value
  | .tell effect program, next => .tell effect (program.bind next)
  | .ask call program, next => .ask call fun answer => (program answer).bind next

instance : Monad Program where
  pure := .done
  bind := Program.bind

/-- Ask the cluster one thing. -/
def request (call : ClusterCall) : Program (Except Error call.Answer) := .ask call .done

/-- Tell something. -/
def notify (notice : Notice) : Program Unit := .tell (.notice notice) (.done ())

/-- Tell several things. -/
def notifyAll : List Notice → Program Unit
  | [] => .done ()
  | notice :: rest => .tell (.notice notice) (notifyAll rest)

/-- Count something. -/
def measure (change : Measurement) : Program Unit := .tell (.measure change) (.done ())

/-- A behaviour of the cluster: how each request is answered and what it does to the
cluster's state. -/
abbrev Behaviour (σ : Type) := σ → (call : ClusterCall) → Except Error call.Answer × σ

/-- What came of a run: the value, the state of the cluster, and what was told and
counted, in order. -/
structure Result (α σ : Type) where
  value : α
  state : σ
  effects : List Effect

/-- Run a program against a behaviour of the cluster. -/
def run (behaviour : Behaviour σ) : Program α → σ → Result α σ
  | .done value, state => ⟨value, state, []⟩
  | .tell effect program, state =>
    let rest := program.run behaviour state
    { rest with effects := effect :: rest.effects }
  | .ask call program, state =>
    let answered := behaviour state call
    (program answered.1).run behaviour answered.2

/-- A program at its next request, or at its end. -/
inductive Paused (α : Type) where
  | done (value : α)
  | ask (call : ClusterCall) (next : Except Error call.Answer → Program α)

/-- A program up to its next request, with what it tells and counts on the way. -/
def pause : Program α → List Effect × Paused α
  | .done value => ([], .done value)
  | .tell effect program =>
    let (effects, paused) := program.pause
    (effect :: effects, paused)
  | .ask call next => ([], .ask call next)

end Program

end CatalogBridge

import Courier.Crawl.Schedule
import Courier.Http.Fetcher
import Courier.Query.Plan

/-!
# Crawls

A crawl carries out a plan on documents that it reads on the way.  Each pass evaluates the whole
plan on what has been gathered so far and then fetches, as one batch, every document that was
discovered and not yet fetched.  A document is fetched at most once; one that cannot be obtained
contributes nothing.  The crawl converges when a pass discovers nothing new.  It stops earlier when
it is cancelled, when its deadline comes, or when it may fetch no more documents.

Time is counted in milliseconds from the start of the crawl.  It passes only while documents are
being fetched.  At its deadline the crawl stops before anything else that would happen at the same
instant.  Cancellation comes last at its instant, but a crawl cancelled at the very start fetches
nothing.
-/

namespace Courier

namespace Crawl

/-- How far a crawl may go. -/
structure Limits where
  /-- The greatest number of documents fetched. -/
  maxFetches : Nat := 256
  /-- The instant at which the crawl stops, if there is one. -/
  deadline : Option Nat := some 60000
  /-- How long one document may take. -/
  fetchTimeout : Nat := 30000
  /-- How many documents may be in flight at once; none counts as one. -/
  concurrency : Nat := 8

/-- How a crawl ended. -/
inductive Status where
  /-- Nothing was left to fetch; what was found is final. -/
  | converged
  /-- The crawl was cancelled. -/
  | cancelled
  /-- The number of documents or the time was used up. -/
  | budgetExhausted
  deriving DecidableEq

/-- The word for a status. -/
def Status.word : Status → String
  | converged => "Converged"
  | cancelled => "Cancelled"
  | budgetExhausted => "BudgetExhausted"

/-- What came of a document. -/
inductive Outcome where
  /-- The document had so many statements. -/
  | loaded (triples : Nat)
  /-- The document contributed nothing. -/
  | failed (error : FetchError)
  deriving DecidableEq

/-- A note that a document's outcome was recorded. -/
structure Event where
  /-- When the outcome was recorded. -/
  instant : Nat
  /-- The document. -/
  document : Iri
  /-- What came of it. -/
  outcome : Outcome
  deriving DecidableEq

/-- What a crawl has gathered and done so far. -/
structure State where
  /-- The statements of all documents loaded. -/
  store : Store := {}
  /-- What was found for each variable. -/
  bindings : Bindings := .empty
  /-- The documents discovered. -/
  resources : OrderedSet Iri := .empty
  /-- What came of each document fetched, in the order of recording. -/
  outcomes : List (Iri × Outcome) := []
  /-- What an observer was told, in order. -/
  heard : List Event := []
  /-- How often the plan was evaluated. -/
  passes : Nat := 0
  /-- The time that has passed. -/
  clock : Nat := 0
  /-- The requests made and when they were made, in order. -/
  requests : List (Nat × Request) := []

/-- How a crawl ended, and everything it gathered. -/
structure Resolution extends State where
  /-- How the crawl ended. -/
  status : Status

/-! ### Evaluating the plan -/

/-- The documents of the resources among a variable's terms. -/
def documentsOf (bindings : Bindings) (v : Variable) : List Iri :=
  ((bindings.values v).toList.filterMap Term.iri?).map Iri.document

namespace State

/-- The state before the first pass: the documents of the seed are discovered. -/
def start (seed : Bindings) : State :=
  { bindings := seed
    resources := .ofList (seed.entries.flatMap fun (v, _) => documentsOf seed v) }

/-- The state after one step of the plan. -/
def step (s : State) : Step → State
  | .lookUp m => { s with bindings := s.bindings.set m.target (m.evaluate s.store s.bindings) }
  | .addResources v =>
    { s with resources := s.resources.insertMany (documentsOf s.bindings v) }

/-- The state after one evaluation of the plan. -/
def evaluate (s : State) (plan : Plan) : State :=
  plan.steps.foldl step { s with passes := s.passes + 1 }

/-- The documents discovered but not fetched, in the order of discovery. -/
def pending (s : State) : List Iri :=
  s.resources.toList.filter fun document => !s.outcomes.any (·.1 == document)

/-- The state in which the document's outcome is recorded. -/
def record (s : State) (instant : Nat) (document : Iri)
    (result : Except FetchError (List Triple)) : State :=
  let (store, outcome) :=
    match result with
    | .ok ts => (s.store.addGraph document ts, Outcome.loaded ts.length)
    | .error e => (s.store, .failed e)
  { s with
    store
    outcomes := s.outcomes ++ [(document, outcome)]
    heard := s.heard ++ [⟨instant, document, outcome⟩] }

end State

/-! ### Fetching a batch -/

/-- An instant at which a crawl is stopped. -/
structure Stop where
  /-- When the crawl is stopped. -/
  instant : Nat
  /-- Whether what happens at the same instant comes before the stop. -/
  last : Bool
  /-- How the crawl ends. -/
  status : Status
  deriving DecidableEq

/-- Whether what happens at the instant `t` comes before the stop. -/
def Stop.admits (stop : Stop) (t : Nat) : Bool :=
  t < stop.instant || stop.last && t == stop.instant

/-- Everything a crawl depends on besides its seed. -/
structure Setting where
  /-- What answers the requests. -/
  fetcher : Fetcher
  /-- The number of the reading, which tells anonymous nodes of different crawls apart. -/
  reading : Nat := 0
  /-- How far the crawl may go. -/
  limits : Limits := {}
  /-- The instant at which the crawl is cancelled, if it is. -/
  cancelled : Option Nat := none
  /-- The steps carried out on every pass. -/
  plan : Plan

namespace Setting

/-- How long the document takes: no longer than a document may take. -/
def duration (c : Setting) (document : Iri) : Nat :=
  min (c.fetcher.delay document.documentRequest) c.limits.fetchTimeout

/-- What comes of fetching the document. -/
def load (c : Setting) (document : Iri) : Except FetchError (List Triple) :=
  if c.fetcher.delay document.documentRequest ≤ c.limits.fetchTimeout then
    c.fetcher.document c.reading document
  else .error (.timeout document)

/-- The stop that the crawl would come to if it went on for long enough. -/
def stop (c : Setting) : Option Stop :=
  let cancellation := c.cancelled.map fun t => ⟨t, t != 0, .cancelled⟩
  let deadline := c.limits.deadline.map fun d => ⟨d, false, .budgetExhausted⟩
  match cancellation, deadline with
  | some s, some e => if s.instant = 0 ∨ s.instant < e.instant then some s else some e
  | s, e => s <|> e

/-- Whether something at the instant comes before the crawl is stopped. -/
def isBeforeStop (c : Setting) (instant : Nat) : Bool :=
  c.stop.all (·.admits instant)

/-- The documents of a batch that starts now, with their spans, in order. -/
def batch (c : Setting) (now : Nat) (documents : List Iri) : List (Span × Iri) :=
  (schedule c.limits.concurrency now (documents.map c.duration)).zip documents

/-- The state after a batch, and how the crawl ends if it is stopped meanwhile. -/
def fetchBatch (c : Setting) (s : State) (documents : List Iri) : State × Option Status :=
  let jobs := c.batch s.clock documents
  let started := jobs.filter fun job => c.isBeforeStop job.1.start
  let finished := (byFinish jobs).filter fun job => c.isBeforeStop job.1.finish
  let made := started.map fun (span, document) => (span.start, document.documentRequest)
  let s := { s with requests := s.requests ++ made }
  let s := finished.foldl
    (fun s (span, document) => s.record span.finish document (c.load document)) s
  let last := jobs.foldl (fun t job => max t job.1.finish) s.clock
  match c.stop with
  | some stop =>
    if stop.admits last then ({ s with clock := last }, none)
    else ({ s with clock := stop.instant }, some stop.status)
  | none => ({ s with clock := last }, none)

/-! ### The whole crawl -/

/-- How the crawl ends before its next batch, if it does, after a pass that found the documents
pending. -/
def verdict (c : Setting) (s : State) (pending : List Iri) : Option Status :=
  if pending.isEmpty then some .converged
  else if c.cancelled = some 0 then some .cancelled
  else if c.limits.maxFetches ≤ s.outcomes.length || c.limits.deadline.any (· ≤ s.clock) then
    some .budgetExhausted
  else none

/-- Passes until the crawl ends, at most `fuel` of them before the last. -/
def passes (c : Setting) : Nat → State → Resolution
  | fuel, s =>
    let s := s.evaluate c.plan
    match c.verdict s s.pending with
    | some status => { s with status }
    | none =>
      match fuel with
      | 0 => { s with status := .budgetExhausted }
      | fuel + 1 =>
        match c.fetchBatch s (s.pending.take (c.limits.maxFetches - s.outcomes.length)) with
        | (s, some status) => { s with status }
        | (s, none) => passes c fuel s

/-- The crawl that starts with the seed.  Every pass but the last fetches at least one document. -/
def run (c : Setting) (seed : Bindings) : Resolution :=
  c.passes c.limits.maxFetches (.start seed)

end Setting

namespace Resolution

/-- Whether the crawl found all there was to find. -/
def isConverged (r : Resolution) : Bool :=
  r.status = .converged

/-- The terms found for a variable. -/
def termsOf (r : Resolution) (v : Variable) : OrderedSet Term :=
  r.bindings.values v

/-- The documents that could not be obtained, and why. -/
def failures (r : Resolution) : List (Iri × FetchError) :=
  r.outcomes.filterMap fun
    | (document, .failed e) => some (document, e)
    | _ => none

end Resolution

end Crawl

end Courier

import KernelStats.Memory.Session

/-!
# Sources in memory and their clones

Several sources in memory beside each other. A clone starts with the statistics of the source that it is
made from and counts its calls together with it: the two belong to one family. From then on each is
changed on its own. Sources and sessions are numbered in the order of their creation.
-/

namespace KernelStats.Memory

structure Holding where
  family : Nat
  data : Data

structure World where
  families : List Calls := []
  sources : List Holding := []
  /-- A session that has been closed leaves its place empty. -/
  sessions : List (Option Holding) := []

inductive Operation where
  | create (d : Data)
  | clone (source : Nat)
  | change (source : Nat) (c : Change)
  | calls (source : Nat)
  | openSession (source : Nat)
  | closeSession (session : Nat)
  | ask (session : Nat) (q : Query)

inductive Answer where
  | source (number : Nat)
  | session (number : Nat)
  | changed
  | calls (c : Calls)
  | closed (wasOpen : Bool)
  | reply (r : Reply)
  | failed (cause : SourceError)
  | noSource
  | noSession

namespace World

def session? (w : World) (number : Nat) : Option Holding := w.sessions[number]?.join

def callsOf (w : World) (family : Nat) : Calls := w.families[family]?.getD {}

def view (w : World) (h : Holding) : Memory := { data := h.data, calls := w.callsOf h.family }

def setCalls (w : World) (family : Nat) (calls : Calls) : World :=
  { w with families := w.families.set family calls }

def addSource (w : World) (h : Holding) : Answer × World :=
  (.source w.sources.length, { w with sources := w.sources ++ [h] })

def openOn (w : World) (h : Holding) : Answer × World :=
  match Memory.source.acquire (w.view h) with
  | (.error cause, m) => (.failed cause, w.setCalls h.family m.calls)
  | (.ok session, m) =>
    let w := w.setCalls h.family m.calls
    (.session w.sessions.length,
      { w with sessions := w.sessions ++ [some { h with data := session.data }] })

def close (w : World) (number : Nat) (h : Holding) : World :=
  let m := Memory.source.release (w.view h) (w.view h)
  { w.setCalls h.family m.calls with sessions := w.sessions.set number none }

def askIn (w : World) (number : Nat) (h : Holding) (q : Query) : Reply × World :=
  let (reply, session) := Memory.source.ask (w.view h) q
  (reply, { w.setCalls h.family session.calls with
    sessions := w.sessions.set number (some { h with data := session.data }) })

def step (w : World) : Operation → Answer × World
  | .create d =>
    { w with families := w.families ++ [{ : Calls }] }.addSource { family := w.families.length, data := d }
  | .clone source =>
    match w.sources[source]? with
    | none => (.noSource, w)
    | some h => w.addSource h
  | .change source c =>
    match w.sources[source]? with
    | none => (.noSource, w)
    | some h =>
      (.changed, { w with sources := w.sources.set source { h with data := c.apply h.data } })
  | .calls source =>
    match w.sources[source]? with
    | none => (.noSource, w)
    | some h => (.calls (w.callsOf h.family), w)
  | .openSession source =>
    match w.sources[source]? with
    | none => (.noSource, w)
    | some h => w.openOn h
  | .closeSession number =>
    match w.sessions[number]? with
    | none => (.noSession, w)
    | some none => (.closed false, w)
    | some (some h) => (.closed true, w.close number h)
  | .ask number q =>
    match w.session? number with
    | none => (.noSession, w)
    | some h =>
      let (reply, w) := w.askIn number h q
      (.reply reply, w)

end World

end KernelStats.Memory

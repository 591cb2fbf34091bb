import KernelStats.Source.Session

/-!
# Several sessions of a source

A source with all of its sessions, which are numbered in the order in which they are opened. A session
that has been closed keeps its number.
-/

namespace KernelStats

structure SessionTable (ω σ : Type) where
  source : ω
  sessions : List (Option σ) := []

namespace SessionTable

def session? (t : SessionTable ω σ) (number : Nat) : Option σ := t.sessions[number]?.join

def openSession (s : Source ω σ) (t : SessionTable ω σ) : Except SourceError Nat × SessionTable ω σ :=
  match s.acquire t.source with
  | (.error cause, source) => (.error cause, { t with source })
  | (.ok state, source) =>
    (.ok t.sessions.length, { source, sessions := t.sessions ++ [some state] })

def closeSession (s : Source ω σ) (t : SessionTable ω σ) (number : Nat) : SessionTable ω σ :=
  match t.session? number with
  | none => t
  | some state =>
    { source := s.release t.source state, sessions := t.sessions.set number none }

def closeAll (s : Source ω σ) (t : SessionTable ω σ) : SessionTable ω σ :=
  (List.range t.sessions.length).foldl (closeSession s) t

def ask (s : Source ω σ) (t : SessionTable ω σ) (number : Nat) (q : Query) :
    Option Reply × SessionTable ω σ :=
  match t.session? number with
  | none => (none, t)
  | some state =>
    let (reply, state) := s.ask state q
    (some reply, { t with sessions := t.sessions.set number (some state) })

end SessionTable

end KernelStats

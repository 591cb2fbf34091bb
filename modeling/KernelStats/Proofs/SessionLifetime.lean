import KernelStats.Kernel.Session
import KernelStats.Proofs.MemorySnapshot
import KernelStats.Proofs.ScrapeLog
import KernelStats.Proofs.Translation
import KernelStats.Registry

/-!
# The lifetime of a session

A scrape makes one attempt to open a session. If that is refused nothing else happens; otherwise the
scrape has a result whatever it is answered, and closes the session behind its last call. So over any
number of scrapes as many sessions are closed as were opened.
-/

namespace KernelStats

/-- What a source and its sessions see of a scrape. The time of an entry, which a session is asked for
without going on in another state, is not among it. -/
inductive Contact where
  | opened
  | refused (cause : SourceError)
  | call (c : Call)
  | closed

namespace Contact

def visit : Except SourceError (List Call) → List Contact
  | .error cause => [refused cause]
  | .ok calls => opened :: calls.map call ++ [closed]

end Contact

def Source.watched (src : Source ω σ) : Source (ω × List Contact) (σ × List Call) where
  toSession := src.toSession.logged
  acquire w :=
    match src.acquire w.1 with
    | (.ok session, source) => (.ok (session, []), source, w.2 ++ [.opened])
    | (.error cause, source) => (.error cause, source, w.2 ++ [.refused cause])
  release w session := (src.release w.1 session.1, w.2 ++ session.2.map .call ++ [.closed])

inductive Turn (ω : Type) where
  | scrape (sink : Array Sample)
  | change (f : ω → ω)

namespace Turn

def watched : Turn ω → Turn (ω × List Contact)
  | scrape sink => scrape sink
  | change f => change fun w => (f w.1, w.2)

end Turn

namespace Collector

variable (c : Collector) (src : Source ω σ) (source : ω)

end Collector

end KernelStats

import KernelStats.Collect.Collector

/-!
# Arguments of the daemon

A word of a command line is a long option, a cluster of short ones, or the value of the option before it.
An option whose value is another word waits for it: the value is taken as it is, and is judged only when
the next option comes or the words end. So a word that means nothing is reported before a bad value that
stands in front of it, unless an option comes between.
-/

namespace KernelStats.Daemon

inductive Setting where
  | config | interval | ns
deriving DecidableEq

inductive Switch where
  | once | verbose | quiet | help | version
deriving DecidableEq

inductive Parameter where
  | setting (s : Setting)
  | switch (s : Switch)

def Parameter.ofLong? : List Char → Option Parameter
  | name =>
    if name = "config".toList then some (.setting .config)
    else if name = "interval".toList then some (.setting .interval)
    else if name = "namespace".toList then some (.setting .ns)
    else if name = "once".toList then some (.switch .once)
    else if name = "verbose".toList then some (.switch .verbose)
    else if name = "quiet".toList then some (.switch .quiet)
    else if name = "help".toList then some (.switch .help)
    else if name = "version".toList then some (.switch .version)
    else none

def Parameter.ofShort? : Char → Option Parameter
  | 'c' => some (.setting .config)
  | 'i' => some (.setting .interval)
  | 'v' => some (.switch .verbose)
  | 'q' => some (.switch .quiet)
  | 'h' => some (.switch .help)
  | 'V' => some (.switch .version)
  | _ => none

inductive Refusal where
  | unknown (word : String)
  | repeated (p : Parameter)
  | missingValue (s : Setting)
  | badInterval (text : String)
  | superfluousValue (s : Switch)
  | help
  | version

def Refusal.exitCode : Refusal → UInt32
  | help | version => 0
  | _ => 2

structure Arguments where
  config : String
  interval : UInt64
  ns : String
  once : Bool
  /-- How often more words were asked for; more than 255 times count as 255. -/
  verbose : Nat
  quiet : Bool
deriving DecidableEq

def interval? (text : String) : Option UInt64 :=
  let digits := match text.toList with
    | '+' :: rest => rest
    | all => all
  if digits.isEmpty || !digits.all Char.isDigit then none
  else
    let n := Number.digitsValue digits
    if 0 < n && n < UInt64.size then some (.ofNat n) else none

structure Parsing where
  config : Option String := none
  interval : Option UInt64 := none
  ns : Option String := none
  once : Bool := false
  verbose : Nat := 0
  quiet : Bool := false
  waiting : Option (Setting × Option String) := none
  ended : Bool := false

namespace Parsing

def assign (p : Parsing) : Setting → String → Except Refusal Parsing
  | .config, v =>
    if p.config.isSome then .error (.repeated (.setting .config))
    else if v.isEmpty then .error (.missingValue .config)
    else .ok { p with config := some v }
  | .interval, v =>
    if p.interval.isSome then .error (.repeated (.setting .interval))
    else match interval? v with
      | none => .error (.badInterval v)
      | some n => .ok { p with interval := some n }
  | .ns, v =>
    if p.ns.isSome then .error (.repeated (.setting .ns)) else .ok { p with ns := some v }

def settle (p : Parsing) : Except Refusal Parsing :=
  match p.waiting with
  | none => .ok p
  | some (s, none) => .error (.missingValue s)
  | some (s, some v) => { p with waiting := none }.assign s v

def turnOn (p : Parsing) : Switch → Except Refusal Parsing
  | .once => if p.once then .error (.repeated (.switch .once)) else .ok { p with once := true }
  | .quiet => if p.quiet then .error (.repeated (.switch .quiet)) else .ok { p with quiet := true }
  | .verbose => .ok { p with verbose := min 255 (p.verbose + 1) }
  | .help => .error .help
  | .version => .error .version

def setting (p : Parsing) (s : Setting) (attached : Option String) : Except Refusal Parsing := do
  let p ← p.settle
  match attached with
  | some v => p.assign s v
  | none => .ok { p with waiting := some (s, none) }

def switch (p : Parsing) (s : Switch) : Except Refusal Parsing := do
  let p ← p.settle
  p.turnOn s

def long (p : Parsing) (word : String) (text : List Char) : Except Refusal Parsing :=
  let attached := match text.dropWhile (· != '=') with
    | [] => none
    | _ :: v => some (String.ofList v)
  match Parameter.ofLong? (text.takeWhile (· != '=')), attached with
  | none, _ => .error (.unknown word)
  | some (.setting s), attached => p.setting s attached
  | some (.switch s), some _ => .error (.superfluousValue s)
  | some (.switch s), none => p.switch s

/-- Reads a cluster of short options. What follows an option with a value, less an equals sign, is that
value. -/
def short (p : Parsing) (word : String) : List Char → Except Refusal Parsing
  | [] => .ok p
  | c :: rest =>
    match Parameter.ofShort? c with
    | none => .error (.unknown word)
    | some (.switch s) => do
      let p ← p.switch s
      p.short word rest
    | some (.setting s) =>
      match rest with
      | [] => p.setting s none
      | '=' :: v => p.setting s (some (.ofList v))
      | v => p.setting s (some (.ofList v))

def bare (p : Parsing) (word : String) : Except Refusal Parsing :=
  match p.waiting with
  | some (s, none) => .ok { p with waiting := some (s, some word) }
  | _ => .error (.unknown word)

def word (p : Parsing) (w : String) : Except Refusal Parsing :=
  if p.ended then .error (.unknown w)
  else match w.toList with
    | ['-', '-'] => .ok { p with ended := true }
    | '-' :: '-' :: text => p.long w text
    | ['-'] => p.bare w
    | '-' :: text => p.short w text
    | _ => p.bare w

def finish (p : Parsing) : Except Refusal Arguments := do
  let p ← p.settle
  return {
    config := p.config.getD "config/kstat.yml"
    interval := p.interval.getD 15
    ns := p.ns.getD defaultNamespace
    once := p.once
    verbose := p.verbose
    quiet := p.quiet }

end Parsing

def Arguments.ofWords (words : List String) : Except Refusal Arguments := do
  let p ← words.foldlM Parsing.word {}
  p.finish

def Arguments.level (a : Arguments) : Level :=
  if a.quiet then .error
  else match a.verbose with
    | 0 => .info
    | 1 => .debug
    | _ => .trace

end KernelStats.Daemon

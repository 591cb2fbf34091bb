import KernelStats.Memory.Chain

/-!
# Ready-made systems

Statistics in memory that look like those of a running system.
-/

namespace KernelStats.Memory

def Kstat.ofCounts (module : String) (inst : UInt32) (name : String) (snaptime : Int64)
    (counts : List (String × UInt64)) : Kstat :=
  { module, inst, name, snaptime, stats := counts.map fun (stat, n) => (stat, .unsigned n) }

namespace Data

def withCpus (n : Nat) : Data where
  chain := (List.range n).map fun i =>
    .ofCounts "cpu" (.ofNat i) "sys" (1000 + .ofNat i) [("syscall", 100 * (.ofNat i + 1))]

def typicalTime : Int64 := 1234567890123

def typicalCpu (i : Nat) : List Kstat :=
  let base : UInt64 := 1000 * .ofNat i
  let kstat := fun name => Kstat.ofCounts "cpu" (.ofNat i) name (typicalTime + .ofNat i)
  [ kstat "sys" [
      ("cpu_nsec_idle", 8000000000000 + base),
      ("cpu_nsec_kernel", 1500000000000 + base),
      ("cpu_nsec_user", 2500000000000 + base),
      ("cpu_nsec_intr", 40000000000 + base),
      ("cpu_nsec_dtrace", 0),
      ("cpu_ticks_idle", 800000 + base),
      ("cpu_ticks_kernel", 150000 + base),
      ("cpu_ticks_user", 250000 + base),
      ("cpu_ticks_wait", 0),
      ("cpu_load_intr", 3),
      ("cpumigrate", 5000 + base),
      ("iowait", 0),
      ("nthreads", 2000 + base),
      ("syscall", 9000000 + base),
      ("sysexec", 1200 + base),
      ("sysfork", 1300 + base),
      ("sysread", 3000000 + base),
      ("sysvfork", 40 + base),
      ("syswrite", 2000000 + base)],
    kstat "vm" [
      ("pgin", 10000 + base),
      ("pgout", 2000 + base),
      ("anonpgin", 100 + base),
      ("anonfree", 50 + base),
      ("swapin", 0),
      ("swapout", 0)]]

def typicalSystem : Data where
  chain := (List.range 4).flatMap typicalCpu ++ [
    .ofCounts "unix" 0 "system_misc" typicalTime [
      ("ncpus", 4),
      ("nproc", 142),
      ("clk_intr", 123456789),
      ("boot_time", 1700000000),
      ("avenrun_1min", 384),
      ("avenrun_5min", 256),
      ("avenrun_15min", 128)],
    .ofCounts "zfs" 0 "arcstats" typicalTime [
      ("hits", 5000000),
      ("misses", 250000),
      ("size", 8589934592),
      ("c", 8589934592),
      ("c_max", 16106127360),
      ("c_min", 1073741824)],
    .ofCounts "zones" 0 "zone_misc_global" typicalTime [("nprocs", 120), ("nsec_user", 9000000000)],
    .ofCounts "zones" 0 "zone_misc_web" typicalTime [("nprocs", 22), ("nsec_user", 1000000000)]]
  vminfo := some ({
    freemem := 1000000000
    swapResv := 2000000
    swapAlloc := 1500000
    swapAvail := 3000000
    swapFree := 3500000
    updates := 1200 }, typicalTime)

end Data

end KernelStats.Memory

/-!
# Powers of numbers

A power of numbers is the one of the core library, also where an algebra library brings its own.
-/

attribute [default_instance 20000] instPowNat
attribute [instance (2000)] instPowNat

/-!
# Powers

Powers of whole numbers in this library are the power of the core library, also where a more
general one is in scope. So a bound such as `2 ^ 64` is one and the same term everywhere.
-/

attribute [instance (2000), default_instance 20000] instPowNat

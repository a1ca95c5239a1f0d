import Resilience.Duration.Basic
import Resilience.Duration.Reader
import Resilience.Duration.Printer
/-! # Durations

Lengths of time in whole nanoseconds, how they are read and how they are written.
-/

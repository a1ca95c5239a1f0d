import Resilience.Json.Basic
import Resilience.Json.Printer
import Resilience.Json.Token
import Resilience.Json.Tree
import Resilience.Json.Parser
/-! # JSON

Values, how they are written, and how texts are read.
-/

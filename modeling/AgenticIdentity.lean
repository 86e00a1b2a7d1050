import AgenticIdentity.Boundary.Native
import AgenticIdentity.Boundary.Ffi
import AgenticIdentity.Json
import AgenticIdentity.Wrapper.Identity
import AgenticIdentity.Wrapper.Lifecycle
import AgenticIdentity.Models
import AgenticIdentity.Errors
import AgenticIdentity.Boundary.Held
import AgenticIdentity.Wrapper.Session
import AgenticIdentity.Json.Read
import AgenticIdentity.Json.Escape
import AgenticIdentity.Json.RoundTrip

/-!
# Configuration

The settings of the program with their defaults.
-/

namespace SnippetPage

structure Config where
  baseUrl : String := "http://localhost:8080"
  requestTimeoutSecs : UInt64 := 30
  candidatePageSize : UInt32 := 100
  candidateSort : String := "createdAt,DESC"
  highlightTheme : String := "base16-ocean.dark"
  notificationHistory : UInt64 := 100
  loginPath : String := "/login.html"
  dashboardPath : String := "/dashboard.html"
  deriving DecidableEq, Repr

end SnippetPage

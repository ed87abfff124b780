import QueryShell.Decimal.Notation

namespace QueryShell.Connection

structure Options where
  secret : String
  domain : String
  scheme : String
  port : Nat
  /-- Seconds to wait for each answer; for ever if absent. -/
  timeout : Option Float

def defaultDomain : String := "db.fauna.com"

def defaultScheme : String := "https"

def defaultPort : Nat := 443

def Options.endpoint (o : Options) : String :=
  o.scheme ++ "://" ++ o.domain ++ ":" ++ Decimal.integer o.port

end QueryShell.Connection

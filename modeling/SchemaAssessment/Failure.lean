/-
Why a run stops. What is wrong with a document under a schema is a finding and stops
nothing; a run stops at a document that cannot be read, at a limit, at a resource
that cannot be had and at a name that means nothing.
-/

import SchemaAssessment.Json.Reader
import SchemaAssessment.Markup.Fault
import SchemaAssessment.Name.Lexical
import SchemaAssessment.Name.Scope
import SchemaAssessment.Resource.FileTree
import SchemaAssessment.Resource.Limits
import SchemaAssessment.Resource.Location
import SchemaAssessment.Text.Quoted

namespace SchemaAssessment

/-- Why a resource cannot be had. -/
inductive ResourceFault where
  | hint (fault : Location.HintFault)
  | file (path : String) (fault : FileFault)
  | remote (locator : String)
  | noTransport (locator : String)
  | grammar (location : String) (fault : Json.Fault)
  | noLoader
  | otherTarget (location : String) (found wanted : Option String)

/-- The message about a resource. -/
def ResourceFault.message : ResourceFault → String
  | .hint fault => fault.message
  | .file path fault => s!"Failed to read file '{path}': {fault.message}"
  | .remote locator => s!"Remote resources are not allowed: {locator}"
  | .noTransport locator => s!"no transport for URL: {locator}"
  | .grammar location fault => s!"invalid grammar '{location}': JSON error: {fault.message}"
  | .noLoader => "no grammar loader configured"
  | .otherTarget location found wanted =>
    "grammar at '" ++ location ++ "' has target namespace " ++ Text.quoteOption found
      ++ ", expected " ++ Text.quoteOption wanted

/-- What is wrong with a name. -/
inductive NameFault where
  | notNCName (text : String)
  | notQName (text : String)
  deriving DecidableEq, Repr, Inhabited

/-- The message about a name. -/
def NameFault.message : NameFault → String
  | .notNCName text => s!"Invalid NCName: '{text}'"
  | .notQName text => s!"Invalid QName: '{text}'"

/-- Where a prefix stands that means nothing. -/
inductive PrefixPlace where
  | name
  | tag (raw : String)
  | attribute (raw : String)
  deriving DecidableEq, Repr, Inhabited

/-- Why a run stops. -/
inductive Failure where
  | resource (fault : ResourceFault)
  | limit (fault : LimitFault)
  | unboundPrefix (fault : UnboundPrefix) (place : PrefixPlace)
  | name (fault : NameFault)
  | markup (fault : MarkupFault)
  | unknownFeature (feature : String)

/-- The message about a prefix that means nothing. -/
def UnboundPrefix.message (fault : UnboundPrefix) : PrefixPlace → String
  | .name => s!"Unknown prefix: {fault.prefixName}"
  | .tag raw => s!"unbound prefix '{fault.prefixName}' in <{raw}>"
  | .attribute raw => s!"unbound prefix '{fault.prefixName}' in attribute {raw}"

/-- The message about a run that stops. -/
def Failure.message : Failure → String
  | .resource fault => "resource error: " ++ fault.message
  | .limit fault => "limit exceeded: " ++ fault.message
  | .unboundPrefix fault place => "namespace error: " ++ fault.message place
  | .name fault => "name error: " ++ fault.message
  | .markup fault => "XML error: " ++ fault.message
  | .unknownFeature feature => s!"unrecognized feature '{feature}'"

namespace Name

/-- An NCName, or why the text is none. -/
def checkNCName (text : String) : Except Failure Unit :=
  if isNCName text then .ok () else .error (.name (.notNCName text))

/-- A QName, or why the text is none. -/
def checkQName (text : String) : Except Failure Unit :=
  if isQName text then .ok () else .error (.name (.notQName text))

end Name

end SchemaAssessment

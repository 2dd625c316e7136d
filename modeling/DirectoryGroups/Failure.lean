/-
DirectoryGroups/Failure.lean

What can go wrong.

A lookup error (`LookupError`) is what a lookup reports to its caller: its kind,
a message and, where the directory gave one, a result code.  A protocol error
(`ProtocolError`) comes from the directory connection.  A failure (`Failure`) is
anything that stops a step: one of these two, an error about a name or a
configuration, or something foreign that merely passes through.
-/
import DirectoryGroups.Config
import DirectoryGroups.Name.Error

namespace DirectoryGroups

/-! ### Protocol errors -/

/-- What the directory answered to an operation it did not carry out. -/
structure OperationResult where
  code : Option Int := none
  description : Option String := none
  dn : Option String := none
  message : Option String := none
  responseType : Option String := none
  deriving DecidableEq, Repr

namespace OperationResult

/-- The result codes with a name of their own. -/
def namedCodes : List (Int × String) :=
  [(1, "OperationsError"), (2, "ProtocolError"), (3, "TimeLimitExceeded"),
   (4, "SizeLimitExceeded"), (7, "AuthMethodNotSupported"), (8, "StrongerAuthRequired"),
   (10, "Referral"), (11, "AdminLimitExceeded"), (12, "UnavailableCriticalExtension"),
   (13, "ConfidentialityRequired"), (14, "SASLBindInProgress"), (16, "NoSuchAttribute"),
   (17, "UndefinedAttributeType"), (18, "InappropriateMatching"), (19, "ConstraintViolation"),
   (20, "AttributeOrValueExists"), (21, "InvalidAttributeSyntax"), (32, "NoSuchObject"),
   (33, "AliasProblem"), (34, "InvalidDNSyntax"), (36, "AliasDereferencingProblem"),
   (48, "InappropriateAuthentication"), (49, "InvalidCredentials"),
   (50, "InsufficientAccessRights"), (51, "Busy"), (52, "Unavailable"),
   (53, "UnwillingToPerform"), (54, "LoopDetected"), (64, "NamingViolation"),
   (65, "ObjectClassViolation"), (66, "NotAllowedOnNotLeaf"), (67, "NotAllowedOnRDN"),
   (68, "EntryAlreadyExists"), (69, "ObjectClassModsProhibited"), (71, "AffectMultipleDSAS"),
   (80, "Other"), (113, "LCUPResourcesExhausted"), (114, "LCUPSecurityViolation"),
   (115, "LCUPInvalidData"), (116, "LCUPUnsupportedScheme"), (117, "LCUPReloadRequired"),
   (118, "Canceled"), (119, "NoSuchOperation"), (120, "TooLate"), (121, "CannotCancel"),
   (122, "AssertionFailed"), (123, "AuthorizationDenied"), (4096, "ESyncRefreshRequired")]

/-- The name of the result: by its code if that has one, and the general name
otherwise. -/
def name (result : OperationResult) : String :=
  match result.code.bind fun code => namedCodes.lookup code with
  | some word => "LDAP" ++ word ++ "Result"
  | none => "LDAPOperationResult"

/-- A part of the result's text; what is missing or empty is called none. -/
def part : Option String → String
  | none => "None"
  | some s => if s.isEmpty then "None" else s

/-- The text of the code; zero counts as missing. -/
def codeText : Option Int → String
  | none => "None"
  | some n => if n = 0 then "None" else toString n

/-- The text of the result.  Its last part, the response, is never known. -/
def text (result : OperationResult) : String :=
  " - ".intercalate
    [result.name, codeText result.code, part result.description, part result.dn,
     part result.message, part result.responseType, part none]

end OperationResult

/-- An error that the directory connection raises. -/
inductive ProtocolError where
  /-- The directory did not carry out the operation. -/
  | operation (result : OperationResult)
  /-- Any other error of the connection, by its name. -/
  | other (name text : String)
  deriving DecidableEq, Repr

namespace ProtocolError

/-- The name of the error. -/
def name : ProtocolError → String
  | operation result => result.name
  | other name _ => name

/-- The text of the error. -/
def text : ProtocolError → String
  | operation result => result.text
  | other _ text => text

/-- The result code that the error carries. -/
def code : ProtocolError → Option Int
  | operation result => result.code
  | other .. => none

end ProtocolError

/-! ### Lookup errors -/

/-- The kinds of lookup errors. -/
inductive ErrorKind where
  /-- No kind in particular. -/
  | general
  /-- The configuration cannot be used. -/
  | configuration
  /-- The directory did not do what it was asked. -/
  | operation
  deriving DecidableEq, Repr

/-- The name under which a kind is logged. -/
def ErrorKind.name : ErrorKind → String
  | general => "LdapGroupsError"
  | configuration => "ConfigurationError"
  | operation => "DirectoryOperationError"

/-- What a lookup reports to its caller. -/
inductive LookupError where
  /-- The configuration names no membership attribute. -/
  | membershipUnset
  /-- The directory answered a search with a code other than success. -/
  | refused (base : String) (code : Option Int) (description : Option String)
  /-- The connection raised an error during a search. -/
  | interrupted (base : String) (error : ProtocolError)
  /-- The directory gave a user's entry a name that is none. -/
  | badName (username : String) (dn : Option String) (error : NameError)
  /-- A session or a resolver reports in its own words. -/
  | reported (kind : ErrorKind) (message : String) (code : Option Int)
  deriving DecidableEq, Repr

namespace LookupError

/-- The kind of an error. -/
def kind : LookupError → ErrorKind
  | membershipUnset => .configuration
  | refused .. => .operation
  | interrupted .. => .operation
  | badName .. => .operation
  | reported kind _ _ => kind

/-- The wording of an error. -/
def message : LookupError → String
  | membershipUnset => "Membership attribute is not set in configurations."
  | refused base _ description =>
    "Search under '" ++ base ++ "' failed: " ++ description.getD "None"
  | interrupted base error => "Search under '" ++ base ++ "' failed: " ++ error.text
  | badName username dn _ =>
    "Directory returned an invalid DN for '" ++ username ++ "': " ++ quotedOrNone dn
  | reported _ message _ => message

/-- The result code that an error carries. -/
def code : LookupError → Option Int
  | membershipUnset => none
  | refused _ code _ => code
  | interrupted _ error => error.code
  | badName .. => none
  | reported _ _ code => code

end LookupError

/-! ### Failures -/

/-- Whatever stops a step. -/
inductive Failure where
  | lookup (error : LookupError)
  | protocol (error : ProtocolError)
  | name (error : NameError)
  | config (error : ConfigError)
  /-- Something that has nothing to do with directories. -/
  | foreign (name message : String)

/-- The wording of a failure. -/
def Failure.message : Failure → String
  | lookup error => error.message
  | protocol error => error.text
  | name error => error.message
  | config error => error.message
  | foreign _ message => message

end DirectoryGroups

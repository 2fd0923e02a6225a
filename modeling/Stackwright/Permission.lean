import Stackwright.Reference

/-!
# Permissions

What a function may do, by the kind of thing it does it to.
-/

namespace Stackwright

/-- Access levels of a table. -/
inductive TableAction where
  | readItem
  | updateItem
deriving DecidableEq, Repr

/-- Operations on a user pool. -/
inductive UserPoolAction where
  | listUsers
  | adminCreateUser
  | adminGetUser
  | adminLinkProviderForUser
  | adminDeleteUser
deriving DecidableEq, Repr

/-- What a raw statement applies to: a resource spelled out, or another stack's output. -/
inductive IamResource where
  | literal (arn : String)
  | reference (reference : Reference)
deriving DecidableEq, Repr

/-- Access that a function is granted. -/
inductive Permission where
  | table (table : Table) (actions : List TableAction)
  | userPool (pool : UserPool) (actions : List UserPoolAction)
  /-- Sending mail as the identity that the parameter names. -/
  | sendMail (identity : Parameter)
  | iamAction (actions : List String) (resources : List IamResource)
deriving DecidableEq, Repr

namespace TableAction

def all : List TableAction := [.readItem, .updateItem]

/-- The name in definitions. -/
def name : TableAction → String
  | .readItem => "read_item"
  | .updateItem => "update_item"

/-- The action of the table service. -/
def serviceAction : TableAction → String
  | .readItem => "dynamodb:GetItem"
  | .updateItem => "dynamodb:UpdateItem"

end TableAction

namespace UserPoolAction

def all : List UserPoolAction :=
  [.listUsers, .adminCreateUser, .adminGetUser, .adminLinkProviderForUser, .adminDeleteUser]

/-- The name in definitions. -/
def name : UserPoolAction → String
  | .listUsers => "list_users"
  | .adminCreateUser => "admin_create_user"
  | .adminGetUser => "admin_get_user"
  | .adminLinkProviderForUser => "admin_link_provider_for_user"
  | .adminDeleteUser => "admin_delete_user"

/-- The action of the identity service. -/
def serviceAction : UserPoolAction → String
  | .listUsers => "cognito-idp:ListUsers"
  | .adminCreateUser => "cognito-idp:AdminCreateUser"
  | .adminGetUser => "cognito-idp:AdminGetUser"
  | .adminLinkProviderForUser => "cognito-idp:AdminLinkProviderForUser"
  | .adminDeleteUser => "cognito-idp:AdminDeleteUser"

end UserPoolAction

/-- The name of the kind, in definitions and in messages. -/
def Permission.kind : Permission → String
  | .table .. => "table"
  | .userPool .. => "user_pool"
  | .sendMail _ => "send_mail"
  | .iamAction .. => "iam_action"

/-- The permission at a position, counted from zero, as messages name it. -/
def Permission.label (p : Permission) (index : Nat) : String :=
  "permission #" ++ toString (index + 1) ++ " (" ++ p.kind ++ ")"

end Stackwright

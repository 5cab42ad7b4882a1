import Fabricate.Request

/-!
# Sample requests

Requests to start from, one for each kind of thing that can be asked for, and one that is wrong on
purpose.
-/

namespace Fabricate.CommandLine

open Json

/-- A sample request. -/
structure Sample where
  name : String
  description : String
  request : Request

namespace Sample

/-- A placeholder with the given content. -/
def hole (content : String) : String :=
  "\x7b\x7b" ++ content ++ "\x7d\x7d"

/-- Fields that are filled by one placeholder each. -/
def holes (fields : List (String × String)) : Value :=
  .object (fields.map fun (name, content) => (name, .string (hole content)))

/-- A flat record. -/
def basicUser : Sample where
  name := "basic_user"
  description := "Flat user record with a seeded age"
  request :=
    { Request.ofTemplate
        (holes
          [("name", "name"), ("email", "email"), ("phone", "phone"),
            ("age", "random_int:min=18,max=80")])
        5 with
      seed := some 42 }

/-- Records inside each other. -/
def ecommerce : Sample where
  name := "ecommerce"
  description := "Nested user profile and order with array fields"
  request :=
    { Request.ofTemplate
        (.object
          [("user", .object
              [("profile", holes
                  [("user_id", "uuid4"), ("name", "name"), ("email", "email"),
                    ("join_date", "date_between:start_date=-2y,end_date=today")]),
                ("address", holes
                  [("street", "street_address"), ("city", "city"), ("state", "state"),
                    ("zip", "zipcode"), ("country", "country")])]),
            ("order", holes
              [("order_id", "uuid4"), ("products", "[catch_phrase]:count=3"),
                ("quantities", "[random_int]:count=3,min=1,max=5"),
                ("total", "pydecimal:left_digits=3,right_digits=2"),
                ("order_date", "date_between:start_date=-6m,end_date=today"),
                ("status", "random_element:elements=pending|shipped|delivered|returned")])])
        3 with
      locale := some "en_US" }

/-- Arrays of several generators. -/
def company : Sample where
  name := "company"
  description := "Company profile with employee and location arrays"
  request := Request.ofTemplate
    (holes
      [("company", "company"), ("founded", "date_between:start_date=-50y,end_date=-1y"),
        ("employees", "[name]:count=10"), ("departments", "[word]:count=5"),
        ("locations", "[city]:count=3"), ("revenue", "pydecimal:left_digits=8,right_digits=2"),
        ("products", "[catch_phrase]:count=7")])
    2

/-- A record in another locale, with placeholders among other text. -/
def contactList : Sample where
  name := "contact_list"
  description := "Localized contact card"
  request :=
    { Request.ofTemplate
        (.object
          [("name", .string (hole "name")), ("address", .string (hole "address")),
            ("phone", .string (hole "phone")), ("company", .string (hole "company")),
            ("job", .string (hole "job")),
            ("summary",
              .string (hole "name" ++ " works at " ++ hole "company" ++ " in " ++ hole "city"))])
        3 with
      locale := some "fr_FR" }

/-- Numbers and dates in rows. -/
def financial : Sample where
  name := "financial"
  description := "Account, customer and transaction history"
  request := Request.ofTemplate
    (.object
      [("account", holes
          [("account_id", "uuid4"), ("account_number", "random_number:digits=10,fix_len=true"),
            ("routing_number", "random_number:digits=9,fix_len=true"),
            ("balance", "pydecimal:left_digits=6,right_digits=2"),
            ("currency", "currency_code")]),
        ("customer", holes
          [("customer_id", "uuid4"), ("name", "name"), ("ssn", "ssn"),
            ("credit_score", "random_int:min=300,max=850"),
            ("income", "pydecimal:left_digits=6,right_digits=2")]),
        ("transactions", .string (hole "[pydecimal]:count=5,left_digits=4,right_digits=2")),
        ("transaction_dates",
          .string (hole "[date_between]:count=5,start_date=-1y,end_date=today"))])
    2

/-- Texts of several lengths. -/
def blog : Sample where
  name := "blog"
  description := "Article with author and comments"
  request := Request.ofTemplate
    (.object
      [("article", holes
          [("id", "uuid4"), ("title", "catch_phrase"), ("slug", "slug"),
            ("content", "text:max_nb_chars=1000"), ("summary", "text:max_nb_chars=200"),
            ("tags", "[word]:count=5"), ("category", "word"),
            ("published_date", "date_between:start_date=-1y,end_date=today"),
            ("view_count", "random_int:min=0,max=10000")]),
        ("author", .object
          [("author_id", .string (hole "uuid4")), ("name", .string (hole "name")),
            ("bio", .string (hole "text:max_nb_chars=300")),
            ("social_media", holes [("twitter", "user_name"), ("website", "url")])]),
        ("comments", .string (hole "[text]:count=3,max_nb_chars=150"))])
    2

/-- Everything that can be wrong with a placeholder. -/
def errorDemo : Sample where
  name := "error_demo"
  description := "Invalid template showing validation errors and suggestions"
  request := Request.ofTemplate
    (holes
      [("name", "name"), ("invalid_field", "nonexistent_generator"), ("typo", "emial"),
        ("bad_params", "random_int:invalid_param=true")])
    1

/-- All samples, in the order in which they are listed. -/
def all : List Sample :=
  [basicUser, ecommerce, company, contactList, financial, blog, errorDemo]

/-- The sample of a name. -/
def find? (name : String) : Option Sample :=
  all.find? fun s => s.name = name

/-- The sample as JSON. -/
def toJson (s : Sample) : Value :=
  .object
    [("name", .string s.name),
      ("description", .string s.description),
      ("request", s.request.toJson)]

end Sample

end Fabricate.CommandLine

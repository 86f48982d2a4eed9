/-
Sample records: complete and valid records of the built-in contract types.
-/
import ContractDocs.Catalog.Builtin
import ContractDocs.Record

namespace ContractDocs.Catalog.Samples

open Builtin

def employment : Record :=
  .ofList [("first_party_id", .string "employer-001"), ("second_party_id", .string "promoter-042"),
    ("job_title", .string "Site Engineer"), ("contract_start_date", .string "2024-01-01"),
    ("basic_salary", .int 450), ("currency", .string "OMR"), ("work_location", .string "Muscat")]

/-- Employment for a year. -/
def fixedTerm : Record := employment.insert "contract_end_date" (.string "2024-12-31")

/-- Employment for twenty hours a week. -/
def partTime : Record := employment.insert "working_hours_per_week" (.int 20)

def internship : Record :=
  .ofList [("first_party_id", .string "host-001"), ("second_party_id", .string "intern-009"),
    ("contract_start_date", .string "2024-06-01"), ("contract_end_date", .string "2024-09-01"),
    ("training_program", .string "Civil engineering"),
    ("supervisor_name", .string "Maryam Al-Harthy")]

def consulting : Record :=
  .ofList [("first_party_id", .string "client-007"), ("second_party_id", .string "consultant-003"),
    ("scope_of_work", .string "ERP rollout"), ("contract_start_date", .string "2024-03-01"),
    ("contract_end_date", .string "2025-03-01"), ("professional_fee", .float 1500.25),
    ("currency", .string "OMR")]

def executive : Record :=
  employment.insertAll [("job_title", .string "Chief Operating Officer"),
    ("basic_salary", .int 4200), ("reporting_to", .string "Board of Directors")]

/-- The sample of every built-in type. -/
def byType : List (String × Record) :=
  [(unlimitedType.id, employment), (remoteType.id, employment), (fixedTermType.id, fixedTerm),
    (partTimeType.id, partTime), (internshipType.id, internship), (consultingType.id, consulting),
    (executiveType.id, executive)]

/-- The sample of a built-in type. -/
def ofType? (typeId : String) : Option Record := byType.lookup typeId

end ContractDocs.Catalog.Samples

/-
The built-in catalog: contracts of employment under Omani labour law,
internships and consulting agreements. Every rule names the check that
enforces it.
-/
import ContractDocs.Catalog

namespace ContractDocs.Catalog.Builtin

/-! ## Shared parts -/

def labourLaw : String := "oman-labour-law"

def commercial : String := "commercial"

/-- How dates are written in documents. -/
def displayDate : String := "%d-%m-%Y"

def employmentRequired : List String :=
  ["first_party_id", "second_party_id", "job_title", "contract_start_date", "basic_salary",
    "currency", "work_location"]

def employmentOptional : List String :=
  ["contract_number", "department", "probation_period_months", "notice_period_days",
    "working_hours_per_week", "allowances", "special_terms", "email"]

def labourLawLimits : Constraints :=
  ({ Constraints.unlimited with maxWeeklyHours := some 48, maxProbationMonths := some 3 }.withNotice
    (some 30) (some 90)).withMinimumWage "OMR" 325

def labourLawRules : List BusinessRule :=
  [.enforced
      "Employer, employee, job title, start date, salary, currency and work location must be stated"
      .requiredFields,
    .enforced "Working hours may not exceed 48 per week" .maxWeeklyHours,
    .enforced "Probation may not exceed 3 months" .maxProbation,
    .enforced "Notice must be between 30 and 90 days" .noticeBounds,
    .enforced "Salaries paid in OMR should meet the 325 OMR minimum wage" .minimumWage]

def noRemoteWork : BusinessRule :=
  .enforced "Remote arrangements use the remote employment contract" .remoteWorkDisallowed

def datesInOrder : BusinessRule :=
  .enforced "The end date must follow the start date" .dateOrder

def employmentDefaults : Dict Json :=
  .ofList [("currency", .string "OMR"), ("notice_period_days", .int 30),
    ("working_hours_per_week", .int 45)]

/-! ## Contract types -/

/-- Employment without an end. -/
def unlimitedType : ContractType where
  id := "oman-unlimited-makecom"
  name := "Oman Unlimited Employment Contract"
  description := "Open-ended employment contract for on-site staff"
  category := labourLaw
  requiredFields := employmentRequired
  optionalFields := employmentOptional
  rules := labourLawRules ++ [noRemoteWork]
  constraints := { labourLawLimits with allowsRemoteWork := false }
  defaults := employmentDefaults
  templateId := some "oman-employment-unlimited"

/-- Employment for a fixed time. -/
def fixedTermType : ContractType where
  id := "oman-fixed-term-makecom"
  name := "Oman Fixed-Term Employment Contract"
  description := "Employment for a fixed period of up to two years"
  category := labourLaw
  requiredFields := employmentRequired ++ ["contract_end_date"]
  optionalFields := employmentOptional
  rules := labourLawRules ++
    [datesInOrder, .enforced "Fixed-term contracts may not exceed 24 months" .maxDuration,
      .enforced "Fixed-term contracts must run for at least 1 month" .minDuration, noRemoteWork]
  constraints :=
    { labourLawLimits.withDuration (some 1) (some 24) with allowsRemoteWork := false }
  defaults := employmentDefaults
  templateId := some "oman-employment-fixed-term"

/-- Employment for a part of the week. -/
def partTimeType : ContractType where
  id := "oman-part-time-makecom"
  name := "Oman Part-Time Employment Contract"
  description := "Employment of at most 25 hours per week"
  category := labourLaw
  requiredFields := employmentRequired ++ ["working_hours_per_week"]
  optionalFields :=
    employmentOptional.filter (· != "working_hours_per_week") ++ ["contract_end_date"]
  rules :=
    [.enforced
        ("Employer, employee, job title, start date, salary, currency, work location and weekly "
          ++ "hours must be stated")
        .requiredFields,
      .enforced "Part-time work may not exceed 25 hours per week" .maxWeeklyHours,
      .enforced "Probation may not exceed 3 months" .maxProbation,
      .enforced "Notice must be between 15 and 60 days" .noticeBounds]
  constraints :=
    { Constraints.unlimited with
      maxWeeklyHours := some 25
      maxProbationMonths := some 3 }.withNotice (some 15) (some 60)
  defaults := .ofList [("currency", .string "OMR")]
  templateId := some "oman-employment-part-time"

/-- Training placements; their documents are not made from a template. -/
def internshipType : ContractType where
  id := "oman-internship"
  name := "Oman Internship Agreement"
  description := "Training placement paid by stipend"
  category := labourLaw
  requiredFields :=
    ["first_party_id", "second_party_id", "contract_start_date", "contract_end_date",
      "training_program", "supervisor_name"]
  optionalFields :=
    ["monthly_stipend", "currency", "department", "working_hours_per_week", "special_terms"]
  rules :=
    [.enforced "Intern, host, dates, training program and supervisor must be stated"
        .requiredFields,
      datesInOrder, .enforced "Internships may not exceed 12 months" .maxDuration,
      .enforced "Interns may not work more than 40 hours per week" .maxWeeklyHours,
      .enforced "Internships carry no probation period" .probationDisallowed,
      .enforced "Interns receive a stipend, not a salary" .salaryDisallowed]
  constraints :=
    { Constraints.unlimited.withDuration none (some 12) with
      maxWeeklyHours := some 40
      allowsSalary := false
      allowsProbation := false }
  defaults := .empty
  templateId := none

/-- Services of an independent consultant. -/
def consultingType : ContractType where
  id := "consulting-agreement"
  name := "Consulting Services Agreement"
  description := "Fee-based engagement of an independent consultant"
  category := commercial
  requiredFields :=
    ["first_party_id", "second_party_id", "scope_of_work", "contract_start_date",
      "contract_end_date", "professional_fee", "currency"]
  optionalFields :=
    ["contract_number", "payment_terms", "deliverables", "special_terms", "work_location"]
  rules :=
    [.enforced "Client, consultant, scope, dates, fee and currency must be stated"
        .requiredFields,
      datesInOrder, .enforced "Engagements may not exceed 36 months" .maxDuration,
      .enforced "Consultants serve no probation period" .probationDisallowed,
      .enforced "Consultants are paid a professional fee, not a salary" .salaryDisallowed]
  constraints :=
    { Constraints.unlimited.withDuration none (some 36) with
      allowsSalary := false
      allowsProbation := false }
  defaults :=
    .ofList [("currency", .string "OMR"), ("payment_terms", .string "30 days from invoice")]
  templateId := some "consulting-services"

/-- Employment away from the company's premises. -/
def remoteType : ContractType where
  id := "remote-work-agreement"
  name := "Remote Employment Contract"
  description := "Open-ended employment performed away from company premises"
  category := labourLaw
  requiredFields := employmentRequired
  optionalFields := employmentOptional ++ ["equipment_provided", "contract_end_date"]
  rules := labourLawRules
  constraints := labourLawLimits
  defaults := .ofList [("currency", .string "OMR"), ("work_location", .string "Remote")]
  templateId := some "oman-employment-unlimited"

/-- Employment in the management. -/
def executiveType : ContractType where
  id := "executive-employment"
  name := "Executive Employment Contract"
  description := "Senior management employment with extended notice"
  category := labourLaw
  requiredFields := employmentRequired ++ ["reporting_to"]
  optionalFields :=
    employmentOptional ++ ["contract_end_date", "signing_bonus", "non_compete_months"]
  rules :=
    [.enforced
        ("Employer, executive, title, start date, salary, currency, location and reporting line "
          ++ "must be stated")
        .requiredFields,
      .enforced "Probation may not exceed 6 months" .maxProbation,
      .enforced "Notice must be between 60 and 180 days" .noticeBounds,
      .enforced "Salaries paid in OMR should meet the 325 OMR minimum wage" .minimumWage]
  constraints :=
    ({ Constraints.unlimited with maxProbationMonths := some 6 }.withNotice
      (some 60) (some 180)).withMinimumWage "OMR" 325
  defaults := .ofList [("currency", .string "OMR"), ("notice_period_days", .int 90)]
  templateId := some "executive-employment"

def contractTypes : List ContractType :=
  [unlimitedType, fixedTermType, partTimeType, internshipType, consultingType, remoteType,
    executiveType]

/-! ## Templates -/

/-- An amount with three decimal places. -/
def money (field : String) : Binding := ⟨.field field, some (.scale 1 (some 3))⟩

/-- A reference or a currency, in capital letters and digits. -/
def code (field : String) : Binding := ⟨.field field, some .uppercaseAlphanumeric⟩

/-- A file name of the values of these variables. -/
def filename (names : List String) : String :=
  "_".intercalate (names.map StoragePattern.placeholder)

def employmentBindings : List (String × Binding × String) :=
  [("contract_number", code "contract_number", "Contract reference"),
    ("employer_id", .ofField "first_party_id", "Employer party id"),
    ("employee_id", .ofField "second_party_id", "Employee party id"),
    ("job_title", .trimmed "job_title", "Job title"),
    ("start_date", .date "contract_start_date" displayDate, "Start date"),
    ("basic_salary", money "basic_salary", "Monthly basic salary"),
    ("currency", code "currency", "Salary currency"),
    ("work_location", .trimmed "work_location", "Place of work")]

def employmentTemplateOptional : List String :=
  ["contract_number", "work_location", "department", "probation_period_months",
    "notice_period_days", "special_terms"]

def unlimitedTemplate : Template :=
  { Template.new "oman-employment-unlimited" "Oman Employment Contract (Unlimited)" labourLaw
      "1xOmanUnlimitedEmploymentV3" with
    requiredFields :=
      ["first_party_id", "second_party_id", "job_title", "contract_start_date", "basic_salary",
        "currency"]
    optionalFields := employmentTemplateOptional ++ ["working_hours_per_week"]
    outputFormat := .both
    storage := some ⟨"contracts/oman/unlimited", filename ["employee_id", "start_date"]⟩
  }.withBindings employmentBindings |>.withBindings
    [("department", .trimmed "department", "Department"),
      ("probation_months", .ofField "probation_period_months", "Probation in months"),
      ("notice_days", .ofField "notice_period_days", "Notice in days"),
      ("weekly_hours", .ofField "working_hours_per_week", "Weekly working hours"),
      ("special_terms", .trimmed "special_terms", "Special terms"),
      ("equipment", .trimmed "equipment_provided", "Equipment provided for remote work")]

def fixedTermTemplate : Template :=
  { Template.new "oman-employment-fixed-term" "Oman Employment Contract (Fixed Term)" labourLaw
      "1xOmanFixedTermEmploymentV2" with
    requiredFields :=
      ["first_party_id", "second_party_id", "job_title", "contract_start_date",
        "contract_end_date", "basic_salary", "currency"]
    optionalFields := employmentTemplateOptional ++ ["working_hours_per_week"]
    outputFormat := .both
    storage := some
      ⟨"contracts/oman/fixed-term", filename ["employee_id", "start_date", "end_date"]⟩
  }.withBindings employmentBindings |>.withBindings
    [("end_date", .date "contract_end_date" displayDate, "End date"),
      ("contract_period", .ofConcat ["contract_start_date", "contract_end_date"] " to ",
        "Contract period"),
      ("probation_months", .ofField "probation_period_months", "Probation in months"),
      ("notice_days", .ofField "notice_period_days", "Notice in days")]

def partTimeTemplate : Template :=
  { Template.new "oman-employment-part-time" "Oman Employment Contract (Part Time)" labourLaw
      "1xOmanPartTimeEmploymentV1" with
    requiredFields :=
      ["first_party_id", "second_party_id", "job_title", "contract_start_date", "basic_salary",
        "currency", "working_hours_per_week"]
    optionalFields := employmentTemplateOptional ++ ["contract_end_date"]
    storage := some ⟨"contracts/oman/part-time", filename ["employee_id", "start_date"]⟩
  }.withBindings employmentBindings |>.withBindings
    [("weekly_hours", .ofField "working_hours_per_week", "Weekly working hours"),
      ("end_date", .date "contract_end_date" displayDate, "End date, if any")]

def consultingTemplate : Template :=
  { Template.new "consulting-services" "Consulting Services Agreement" commercial
      "1xConsultingServicesV1" with
    requiredFields :=
      ["first_party_id", "second_party_id", "scope_of_work", "contract_start_date",
        "contract_end_date", "professional_fee", "currency"]
    optionalFields := ["contract_number", "payment_terms", "deliverables"]
    outputFormat := .docx
  }.withBindings
    [("contract_number", code "contract_number", "Agreement reference"),
      ("client_id", .ofField "first_party_id", "Client party id"),
      ("consultant_id", .ofField "second_party_id", "Consultant party id"),
      ("scope_of_work", .trimmed "scope_of_work", "Scope of work"),
      ("start_date", .date "contract_start_date" displayDate, "Start date"),
      ("end_date", .date "contract_end_date" displayDate, "End date"),
      ("professional_fee", money "professional_fee", "Fee"),
      ("professional_fee_baisa",
        ⟨.field "professional_fee", some (.scale 1000 (some 0))⟩, "Fee in baisa"),
      ("currency", code "currency", "Fee currency"),
      ("payment_terms", .trimmed "payment_terms", "Payment terms"),
      ("deliverables", .trimmed "deliverables", "Deliverables")]

def executiveTemplate : Template :=
  { Template.new "executive-employment" "Executive Employment Contract" labourLaw
      "1xExecutiveEmploymentV1" with
    requiredFields :=
      ["first_party_id", "second_party_id", "job_title", "contract_start_date", "basic_salary",
        "currency", "reporting_to"]
    optionalFields :=
      ["contract_number", "contract_end_date", "signing_bonus", "non_compete_months",
        "notice_period_days", "probation_period_months", "special_terms"]
    storage := some ⟨"contracts/executive", filename ["executive_id", "start_date"]⟩
  }.withBindings
    [("contract_number", code "contract_number", "Contract reference"),
      ("employer_id", .ofField "first_party_id", "Employer party id"),
      ("executive_id", .ofField "second_party_id", "Executive party id"),
      ("job_title", .trimmed "job_title", "Job title"),
      ("reporting_to", .trimmed "reporting_to", "Reports to"),
      ("start_date", .date "contract_start_date" displayDate, "Start date"),
      ("basic_salary", money "basic_salary", "Monthly basic salary"),
      ("currency", code "currency", "Salary currency"),
      ("signing_bonus", money "signing_bonus", "Signing bonus"),
      ("non_compete_months", .ofField "non_compete_months", "Non-compete period in months"),
      ("notice_days", .ofField "notice_period_days", "Notice in days"),
      ("probation_months", .ofField "probation_period_months", "Probation in months"),
      ("special_terms", .trimmed "special_terms", "Special terms")]

def templates : List Template :=
  [unlimitedTemplate, fixedTermTemplate, partTimeTemplate, consultingTemplate, executiveTemplate]

end Builtin

/-- The built-in catalog. -/
def builtin : Catalog := ⟨Builtin.contractTypes, Builtin.templates⟩

end ContractDocs.Catalog

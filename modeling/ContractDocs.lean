import ContractDocs.Catalog.Samples
import ContractDocs.LogFormat
import ContractDocs.Service
import ContractDocs.Validation.Expectation
import ContractDocs.Proofs.Braces
import ContractDocs.Proofs.CatalogText
import ContractDocs.Proofs.Currency
import ContractDocs.Proofs.DatePatterns
import ContractDocs.Proofs.DateText
import ContractDocs.Proofs.Defaults
import ContractDocs.Proofs.Destinations
import ContractDocs.Proofs.DotRuns
import ContractDocs.Proofs.DurationLimits
import ContractDocs.Proofs.Extension
import ContractDocs.Proofs.HarmlessDefaults
import ContractDocs.Proofs.LinkedTypes
import ContractDocs.Proofs.MoreFormats
import ContractDocs.Proofs.PayloadBody
import ContractDocs.Proofs.Regeneration
import ContractDocs.Proofs.Relaxation
import ContractDocs.Proofs.Reload
import ContractDocs.Proofs.RequiredVariables
import ContractDocs.Proofs.RuleCoverage
import ContractDocs.Proofs.Runner
import ContractDocs.Proofs.Satisfiable
import ContractDocs.Proofs.Segments
import ContractDocs.Proofs.Separators
import ContractDocs.Proofs.StrayKeys
import ContractDocs.Proofs.Thousands
import ContractDocs.Proofs.UnreadableFields
import ContractDocs.Proofs.Views

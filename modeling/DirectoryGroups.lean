import DirectoryGroups.Client.Command
import DirectoryGroups.Session.Table
import DirectoryGroups.Proofs.Client.Delivery
import DirectoryGroups.Proofs.Client.Interleaving
import DirectoryGroups.Proofs.Client.Services
import DirectoryGroups.Proofs.Config.LastGiven
import DirectoryGroups.Proofs.Filter.Confinement
import DirectoryGroups.Proofs.Filter.Distinction
import DirectoryGroups.Proofs.Filter.SpelledIdentifier
import DirectoryGroups.Proofs.Filter.Username
import DirectoryGroups.Proofs.Filter.WrittenName
import DirectoryGroups.Proofs.Filter.WrittenOrder
import DirectoryGroups.Proofs.Lookup.Account
import DirectoryGroups.Proofs.Lookup.FirstMatch
import DirectoryGroups.Proofs.Lookup.Forms
import DirectoryGroups.Proofs.Lookup.NullAttributes
import DirectoryGroups.Proofs.Lookup.Orderly
import DirectoryGroups.Proofs.Lookup.Pagination
import DirectoryGroups.Proofs.Lookup.Questions
import DirectoryGroups.Proofs.Lookup.Report
import DirectoryGroups.Proofs.Name.Grouping
import DirectoryGroups.Proofs.Name.Locality
import DirectoryGroups.Proofs.Name.RoundTrip
import DirectoryGroups.Proofs.Name.WrittenForm
import DirectoryGroups.Proofs.Paging.Cursor
import DirectoryGroups.Proofs.Paging.Unpaged

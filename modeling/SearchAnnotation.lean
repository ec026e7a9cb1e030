import SearchAnnotation.Provider.Rehearsed
import SearchAnnotation.View.Shared
import SearchAnnotation.View.Logging
import SearchAnnotation.Log.Line
import SearchAnnotation.Log.History
import SearchAnnotation.Selection
import SearchAnnotation.Main
import SearchAnnotation.Service
import SearchAnnotation.Service.Intake
import SearchAnnotation.Store.QueryTable
import SearchAnnotation.Store.RankWrites
import SearchAnnotation.Settings.Sources
import SearchAnnotation.Text.UpperCase
import SearchAnnotation.Proofs.Outcomes
import SearchAnnotation.Proofs.StoredPages
import SearchAnnotation.Proofs.WrittenStrings
import SearchAnnotation.Proofs.WrittenNumbers
import SearchAnnotation.Proofs.WrittenValues
import SearchAnnotation.Proofs.RereadValues
import SearchAnnotation.Proofs.AlikeDocuments
import SearchAnnotation.Proofs.StoredRows
import SearchAnnotation.Proofs.RowKeys
import SearchAnnotation.Proofs.CodePoints
import SearchAnnotation.Proofs.BuiltResults
import SearchAnnotation.Proofs.SavedResults
import SearchAnnotation.Proofs.QueryIsolation
import SearchAnnotation.Proofs.RankPosts
import SearchAnnotation.Proofs.PostInterleavings
import SearchAnnotation.Proofs.ShownResults
import SearchAnnotation.Proofs.SharedSearch
import SearchAnnotation.Proofs.AgreeingViews
import SearchAnnotation.Proofs.Journal
import SearchAnnotation.Proofs.JournalFacts
import SearchAnnotation.Proofs.ChainLinks
import SearchAnnotation.Proofs.PageHistory
import SearchAnnotation.Proofs.ViewCourses
import SearchAnnotation.Proofs.ConsistentStores
import SearchAnnotation.Proofs.VisibleFields
import SearchAnnotation.Proofs.FailedRequests
import SearchAnnotation.Proofs.RedirectTrails
import SearchAnnotation.Proofs.CallEndings
import SearchAnnotation.Proofs.SearchEndings
import SearchAnnotation.Proofs.ReadValues
import SearchAnnotation.Proofs.RecordShapes
import SearchAnnotation.Proofs.UpstreamFaults
import SearchAnnotation.Proofs.QueryInTransit
import SearchAnnotation.Proofs.RepeatedSaves
import SearchAnnotation.Proofs.NewQueries
import SearchAnnotation.Proofs.ConcurrentImports
import SearchAnnotation.Proofs.PercentCoding
import SearchAnnotation.Proofs.PageRoutes
import SearchAnnotation.Proofs.ReachablePages
import SearchAnnotation.Proofs.FirstOccurrences
import SearchAnnotation.Proofs.QueryTables
import SearchAnnotation.Proofs.QueryChain
import SearchAnnotation.Proofs.PostedRanks
import SearchAnnotation.Proofs.ExactValues
import SearchAnnotation.Proofs.KeyAgreement
import SearchAnnotation.Proofs.ReferenceResults
import SearchAnnotation.Proofs.NearestNumbers
import SearchAnnotation.Proofs.ShortestDecimals
import SearchAnnotation.Proofs.DecimalTexts
import SearchAnnotation.Proofs.KeyTexts
import SearchAnnotation.Proofs.LastOccurrences
import SearchAnnotation.Proofs.MeetingIds
import SearchAnnotation.Proofs.DisplayPlaces
import SearchAnnotation.Proofs.PageSpellings
import SearchAnnotation.Proofs.StoreRoundTrip
import SearchAnnotation.Proofs.ChangeNotices
import SearchAnnotation.Proofs.LoggerHistories
import SearchAnnotation.Proofs.FlatSnippets
import SearchAnnotation.Proofs.Lookups
import SearchAnnotation.Proofs.PrintableTexts
import SearchAnnotation.Proofs.LineContext
import SearchAnnotation.Proofs.LoadRecords
